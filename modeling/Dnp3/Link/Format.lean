import Dnp3.Link.ParserScan

/-!
# Formatted frames

The formatters write a header with its CRC and the user data in blocks with theirs.  What they write
is a frame in front of the parser's pending bytes, and the parser delivers the fields and the user
data it was made of; what the parser delivers stands in its input as such a frame.

`Format` is a call of a formatter with its arguments, so that one theorem covers all of them:
`bytes` is what it writes and `frame` what a parser should deliver of it.  `linkFrame_round_trip`
has both directions.  A parser that is fed the bytes, in whatever chunks and behind whatever does
not begin like a frame, delivers the frame; and every frame that a parser delivers stands in its
input as a sequence of bytes with valid checksums, one behind the other (`Delivers`).
-/

namespace Dnp3
namespace Link

open Library

/-- `openpal::UInt16::Write`: little-endian. -/
def writeUInt16 (value : UInt16) : List UInt8 := [value.toUInt8, (value >>> 8).toUInt8]

namespace CRC

/-- The CRC of some bytes, behind them. -/
def addCrc (input : List UInt8) : List UInt8 := input ++ writeUInt16 (calcCrc input)

end CRC

/-- `LinkFunctionToType`. -/
def LinkFunction.toType : LinkFunction → UInt8
  | .priResetLinkStates => 0x40
  | .priTestLinkStates => 0x42
  | .priConfirmedUserData => 0x43
  | .priUnconfirmedUserData => 0x44
  | .priRequestLinkStatus => 0x49
  | .secAck => 0x00
  | .secNack => 0x01
  | .secLinkStatus => 0x0B
  | .secNotSupported => 0x0F
  | .invalid => 0xFF

/-- The functions of a primary station. -/
def LinkFunction.isPrimary : LinkFunction → Bool
  | .secAck | .secNack | .secLinkStatus | .secNotSupported => false
  | _ => true

namespace LinkHeader

/-- The control octet of a frame. -/
def controlByte (aIsMaster aFcb aFcvDfc : Bool) (aFunc : LinkFunction) : UInt8 :=
  aFunc.toType ||| (if aIsMaster then MASK_DIR else 0) ||| (if aFcb then MASK_FCB else 0) |||
    (if aFcvDfc then MASK_FCV else 0)

/-- The ten bytes of a header. -/
def write (h : LinkHeader) : List UInt8 :=
  CRC.addCrc ([0x05, 0x64, h.length, h.ctrl] ++ writeUInt16 h.dest ++ writeUInt16 h.src)

end LinkHeader

namespace LinkFrame

/-- Blocks of sixteen bytes, each with its CRC. -/
def writeUserData (pSrc : List UInt8) (length : Nat) : List UInt8 :=
  if length = 0 then []
  else
    let num := min length LPDU_DATA_BLOCK_SIZE
    CRC.addCrc (pSrc.take num) ++ writeUserData (pSrc.drop num) (length - num)
termination_by length
decreasing_by simp only [LPDU_DATA_BLOCK_SIZE]; omega

/-- The ten octets that a frame begins with, checksum included. -/
def formatHeader (aDataLength : UInt8) (aIsMaster aFcb aFcvDfc : Bool) (aFuncCode : LinkFunction)
    (aDest aSrc : UInt16) : List UInt8 :=
  LinkHeader.write {
    length := aDataLength + UInt8.ofNat LPDU_MIN_LENGTH
    src := aSrc
    dest := aDest
    ctrl := LinkHeader.controlByte aIsMaster aFcb aFcvDfc aFuncCode }

/-- Something was received as it should be. -/
def formatAck (aIsMaster aIsRcvBuffFull : Bool) (aDest aSrc : UInt16) : List UInt8 :=
  formatHeader 0 aIsMaster false aIsRcvBuffFull .secAck aDest aSrc

/-- Something was not received as it should be. -/
def formatNack (aIsMaster aIsRcvBuffFull : Bool) (aDest aSrc : UInt16) : List UInt8 :=
  formatHeader 0 aIsMaster false aIsRcvBuffFull .secNack aDest aSrc

/-- The answer to a request for the link status. -/
def formatLinkStatus (aIsMaster aIsRcvBuffFull : Bool) (aDest aSrc : UInt16) : List UInt8 :=
  formatHeader 0 aIsMaster false aIsRcvBuffFull .secLinkStatus aDest aSrc

/-- The answer to a function that is not known. -/
def formatNotSupported (aIsMaster aIsRcvBuffFull : Bool) (aDest aSrc : UInt16) : List UInt8 :=
  formatHeader 0 aIsMaster false aIsRcvBuffFull .secNotSupported aDest aSrc

/-- A request to reset the secondary station. -/
def formatResetLinkStates (aIsMaster : Bool) (aDest aSrc : UInt16) : List UInt8 :=
  formatHeader 0 aIsMaster false false .priResetLinkStates aDest aSrc

/-- A request for the link status. -/
def formatRequestLinkStatus (aIsMaster : Bool) (aDest aSrc : UInt16) : List UInt8 :=
  formatHeader 0 aIsMaster false false .priRequestLinkStatus aDest aSrc

/-- A request that is acknowledged like confirmed user data. -/
def formatTestLinkStatus (aIsMaster aFcb : Bool) (aDest aSrc : UInt16) : List UInt8 :=
  formatHeader 0 aIsMaster aFcb true .priTestLinkStates aDest aSrc

/-- User data that is acknowledged. -/
def formatConfirmedUserData (aIsMaster aFcb : Bool) (aDest aSrc : UInt16) (apData : List UInt8)
    (dataLength : UInt8) : List UInt8 :=
  formatHeader dataLength aIsMaster aFcb true .priConfirmedUserData aDest aSrc ++
    writeUserData apData dataLength.toNat

/-- User data that is not acknowledged. -/
def formatUnconfirmedUserData (aIsMaster : Bool) (aDest aSrc : UInt16) (apData : List UInt8)
    (dataLength : UInt8) : List UInt8 :=
  formatHeader dataLength aIsMaster false false .priUnconfirmedUserData aDest aSrc ++
    writeUserData apData dataLength.toNat

end LinkFrame

/-! ## What is formatted -/

/-- User data as the formatters assert it. -/
structure UserData where
  bytes : List UInt8
  pos : 0 < bytes.length
  le_max : bytes.length ≤ LPDU_MAX_USER_DATA_SIZE

/-- The calls of the formatters. -/
inductive Format where
  | ack (isMaster isRcvBuffFull : Bool) (dest src : UInt16)
  | nack (isMaster isRcvBuffFull : Bool) (dest src : UInt16)
  | linkStatus (isMaster isRcvBuffFull : Bool) (dest src : UInt16)
  | notSupported (isMaster isRcvBuffFull : Bool) (dest src : UInt16)
  | resetLinkStates (isMaster : Bool) (dest src : UInt16)
  | requestLinkStatus (isMaster : Bool) (dest src : UInt16)
  | testLinkStatus (isMaster fcb : Bool) (dest src : UInt16)
  | confirmedUserData (isMaster fcb : Bool) (dest src : UInt16) (data : UserData)
  | unconfirmedUserData (isMaster : Bool) (dest src : UInt16) (data : UserData)

namespace Format

open LinkFrame

/-- The bytes the formatter writes. -/
def bytes : Format → List UInt8
  | ack isMaster full dest src => formatAck isMaster full dest src
  | nack isMaster full dest src => formatNack isMaster full dest src
  | linkStatus isMaster full dest src => formatLinkStatus isMaster full dest src
  | notSupported isMaster full dest src => formatNotSupported isMaster full dest src
  | resetLinkStates isMaster dest src => formatResetLinkStates isMaster dest src
  | requestLinkStatus isMaster dest src => formatRequestLinkStatus isMaster dest src
  | testLinkStatus isMaster fcb dest src => formatTestLinkStatus isMaster fcb dest src
  | confirmedUserData isMaster fcb dest src data =>
    formatConfirmedUserData isMaster fcb dest src data.bytes (UInt8.ofNat data.bytes.length)
  | unconfirmedUserData isMaster dest src data =>
    formatUnconfirmedUserData isMaster dest src data.bytes (UInt8.ofNat data.bytes.length)

/-- The fields the formatter is called with. -/
def fields : Format → LinkHeaderFields
  | ack isMaster full dest src => ⟨.secAck, isMaster, false, full, dest, src⟩
  | nack isMaster full dest src => ⟨.secNack, isMaster, false, full, dest, src⟩
  | linkStatus isMaster full dest src => ⟨.secLinkStatus, isMaster, false, full, dest, src⟩
  | notSupported isMaster full dest src => ⟨.secNotSupported, isMaster, false, full, dest, src⟩
  | resetLinkStates isMaster dest src => ⟨.priResetLinkStates, isMaster, false, false, dest, src⟩
  | requestLinkStatus isMaster dest src =>
    ⟨.priRequestLinkStatus, isMaster, false, false, dest, src⟩
  | testLinkStatus isMaster fcb dest src => ⟨.priTestLinkStates, isMaster, fcb, true, dest, src⟩
  | confirmedUserData isMaster fcb dest src _ =>
    ⟨.priConfirmedUserData, isMaster, fcb, true, dest, src⟩
  | unconfirmedUserData isMaster dest src _ =>
    ⟨.priUnconfirmedUserData, isMaster, false, false, dest, src⟩

/-- The user data the formatter is called with. -/
def data : Format → List UInt8
  | confirmedUserData _ _ _ _ data => data.bytes
  | unconfirmedUserData _ _ _ data => data.bytes
  | _ => []

/-- What the parser delivers of the frame. -/
def frame (f : Format) : Frame := (f.fields, f.data)

end Format

/-! ## Reading back what is written -/

@[simp] theorem length_writeUInt16 (value : UInt16) : (writeUInt16 value).length = 2 := rfl

theorem readUInt16_write (value : UInt16) (front back : List UInt8) :
    readUInt16 (front ++ writeUInt16 value ++ back) front.length = value := by
  have h0 : (front ++ writeUInt16 value ++ back).getD front.length 0 = value.toUInt8 := by
    simp [writeUInt16]
  have h1 : (front ++ writeUInt16 value ++ back).getD (front.length + 1) 0 =
      (value >>> 8).toUInt8 := by
    simp [writeUInt16]
  rw [readUInt16, h0, h1]
  have hlt := value.toNat_lt
  apply UInt16.toNat_inj.mp
  have hlow : value.toUInt8.toUInt16.toNat = value.toNat % 256 := rfl
  have hhigh : ((value >>> 8).toUInt8.toUInt16 <<< 8).toNat = (value.toNat / 256) <<< 8 := by
    simp only [UInt16.toNat_shiftLeft, UInt16.toNat_shiftRight, UInt8.toNat_toUInt16,
      UInt16.toNat_toUInt8]
    have h8 : UInt16.toNat 8 % 16 = 8 := rfl
    simp only [Nat.shiftLeft_eq, h8, Nat.shiftRight_eq_div_pow]
    omega
  rw [UInt16.toNat_or, hlow, hhigh, Nat.or_comm, ← Nat.shiftLeft_add_eq_or_of_lt (by omega),
    Nat.shiftLeft_eq]
  omega

namespace LinkFrame

theorem isCorrectCRC_addCrc (input back : List UInt8) :
    CRC.isCorrectCRC (CRC.addCrc input ++ back) input.length = true := by
  rw [CRC.isCorrectCRC, CRC.addCrc, readUInt16_write, List.append_assoc, List.take_left,
    beq_self_eq_true]

theorem length_addCrc (input : List UInt8) : (CRC.addCrc input).length = input.length + 2 := by
  rw [CRC.addCrc, List.length_append, length_writeUInt16]

theorem writeUserData_zero (pSrc : List UInt8) : writeUserData pSrc 0 = [] := by
  rw [writeUserData, if_pos rfl]

theorem writeUserData_block (pSrc : List UInt8) {length : Nat} (h : length ≠ 0) :
    writeUserData pSrc length = CRC.addCrc (pSrc.take (min length 16)) ++
      writeUserData (pSrc.drop (min length 16)) (length - min length 16) := by
  rw [writeUserData, if_neg h]

/-- The written blocks have their CRCs, and the data in them is the data written. -/
theorem writeUserData_spec (pSrc back : List UInt8) (length : Nat) (h : length ≤ pSrc.length) :
    (writeUserData pSrc length).length = bodySize length ∧
      validateBodyCRC (writeUserData pSrc length ++ back) length = true ∧
      userData (writeUserData pSrc length ++ back) length = pSrc.take length := by
  induction length using block_induction generalizing pSrc with
  | zero =>
    rw [writeUserData_zero, validateBodyCRC_zero, userData_zero, List.take_zero]
    exact ⟨rfl, rfl, rfl⟩
  | block length h0 ih =>
    have hnum : (pSrc.take (min length 16)).length = min length 16 := by
      rw [List.length_take]
      omega
    obtain ⟨hlen, hcrc, hdata⟩ := ih (pSrc.drop (min length 16)) (by rw [List.length_drop]; omega)
    generalize hrest : writeUserData (pSrc.drop (min length 16)) (length - min length 16) = rest
      at hlen hcrc hdata
    have hblock : (CRC.addCrc (pSrc.take (min length 16))).length = min length 16 + 2 := by
      rw [length_addCrc, hnum]
    have hcorrect := isCorrectCRC_addCrc (pSrc.take (min length 16)) (rest ++ back)
    have htake : (CRC.addCrc (pSrc.take (min length 16)) ++ (rest ++ back)).take (min length 16) =
        pSrc.take (min length 16) := by
      rw [CRC.addCrc, List.append_assoc, List.take_left' hnum]
    rw [hnum] at hcorrect
    rw [writeUserData_block pSrc h0, hrest, List.length_append, hblock, hlen, bodySize_block h0,
      List.append_assoc, validateBodyCRC_block _ h0, userData_block _ h0, hcorrect, htake,
      List.drop_left' hblock, hcrc, hdata]
    refine ⟨rfl, rfl, ?_⟩
    rw [← List.take_add]
    congr 1
    omega

end LinkFrame

namespace LinkHeader

theorem length_write (h : LinkHeader) : h.write.length = 10 := rfl

theorem synced_write (h : LinkHeader) (back : List UInt8) : Synced (h.write ++ back) :=
  ⟨rfl, rfl⟩

theorem isCorrectCRC_write (h : LinkHeader) (back : List UInt8) :
    CRC.isCorrectCRC (h.write ++ back) 8 = true :=
  LinkFrame.isCorrectCRC_addCrc ([0x05, 0x64, h.length, h.ctrl] ++ writeUInt16 h.dest ++
    writeUInt16 h.src) back

theorem read_write (h : LinkHeader) (back : List UInt8) : read (h.write ++ back) = h := by
  have hdest : readUInt16 (h.write ++ back) 4 = h.dest := by
    have := readUInt16_write h.dest [0x05, 0x64, h.length, h.ctrl] (writeUInt16 h.src ++
      writeUInt16 (CRC.calcCrc ([0x05, 0x64, h.length, h.ctrl] ++ writeUInt16 h.dest ++
        writeUInt16 h.src)) ++ back)
    simpa [write, CRC.addCrc] using this
  have hsrc : readUInt16 (h.write ++ back) 6 = h.src := by
    have := readUInt16_write h.src ([0x05, 0x64, h.length, h.ctrl] ++ writeUInt16 h.dest)
      (writeUInt16 (CRC.calcCrc ([0x05, 0x64, h.length, h.ctrl] ++ writeUInt16 h.dest ++
        writeUInt16 h.src)) ++ back)
    simpa [write, CRC.addCrc, writeUInt16] using this
  rw [read, hdest, hsrc]
  rfl

/-- The fields of a control octet are those it was made of. -/
theorem controlByte_fields (length : UInt8) (src dest : UInt16) (aIsMaster aFcb aFcvDfc : Bool)
    {aFunc : LinkFunction} (hfunc : aFunc ≠ .invalid) :
    fields ⟨length, src, dest, controlByte aIsMaster aFcb aFcvDfc aFunc⟩ =
      ⟨aFunc, aIsMaster, aFcb, aFcvDfc, dest, src⟩ := by
  have hctrl : ∀ aFunc : LinkFunction, aFunc ≠ .invalid → ∀ aIsMaster aFcb aFcvDfc : Bool,
      let ctrl := controlByte aIsMaster aFcb aFcvDfc aFunc
      LinkFunction.fromType (ctrl &&& MASK_FUNC_OR_PRM) = aFunc ∧
        (ctrl &&& MASK_DIR != 0) = aIsMaster ∧ (ctrl &&& MASK_FCB != 0) = aFcb ∧
        (ctrl &&& MASK_FCV != 0) = aFcvDfc := by
    intro aFunc
    cases aFunc <;> decide
  obtain ⟨hcode, hdir, hfcb, hfcv⟩ := hctrl aFunc hfunc aIsMaster aFcb aFcvDfc
  rw [fields, getFuncEnum, isFromMaster, isFcbSet, isFcvDfcSet, hcode, hdir, hfcb, hfcv]

/-- A control octet has the PRM bit of its function code. -/
theorem controlByte_isPriToSec (aIsMaster aFcb aFcvDfc : Bool) (aFunc : LinkFunction) :
    (controlByte aIsMaster aFcb aFcvDfc aFunc &&& MASK_PRM != 0) = aFunc.isPrimary := by
  cases aFunc <;> revert aIsMaster aFcb aFcvDfc <;> decide

end LinkHeader

namespace Format

open LinkFrame

/-- The header a formatter writes. -/
def header (f : Format) : LinkHeader where
  length := UInt8.ofNat f.data.length + UInt8.ofNat LPDU_MIN_LENGTH
  src := f.fields.src
  dest := f.fields.dest
  ctrl := LinkHeader.controlByte f.fields.isFromMaster f.fields.fcb f.fields.fcvdfc f.fields.func

theorem data_le (f : Format) : f.data.length ≤ LPDU_MAX_USER_DATA_SIZE := by
  cases f with
  | confirmedUserData _ _ _ _ data => exact data.le_max
  | unconfirmedUserData _ _ _ data => exact data.le_max
  | _ => exact Nat.zero_le _

theorem toNat_length (f : Format) : (UInt8.ofNat f.data.length).toNat = f.data.length := by
  have hle : f.data.length ≤ 250 := f.data_le
  rw [UInt8.toNat_ofNat']
  omega

theorem header_length (f : Format) : f.header.length.toNat = f.data.length + 5 := by
  have hle : f.data.length ≤ 250 := f.data_le
  show ((UInt8.ofNat f.data.length) + 5 : UInt8).toNat = _
  rw [UInt8.toNat_add, toNat_length]
  show (f.data.length + 5) % 256 = _
  omega

/-- Every formatter writes a header and the blocks of its user data. -/
theorem bytes_eq (f : Format) : f.bytes = f.header.write ++ writeUserData f.data f.data.length := by
  have hzero : ∀ h : LinkHeader, h.write = h.write ++ writeUserData [] 0 := fun h => by
    rw [writeUserData_zero, List.append_nil]
  cases f with
  | confirmedUserData isMaster fcb dest src data =>
    have h := toNat_length (confirmedUserData isMaster fcb dest src data)
    simp only [Format.data] at h
    rw [bytes, formatConfirmedUserData, h]
    rfl
  | unconfirmedUserData isMaster dest src data =>
    have h := toNat_length (unconfirmedUserData isMaster dest src data)
    simp only [Format.data] at h
    rw [bytes, formatUnconfirmedUserData, h]
    rfl
  | _ => exact hzero _

theorem header_fields (f : Format) : f.header.fields = f.fields := by
  have hfunc : f.fields.func ≠ .invalid := by cases f <;> exact fun h => by cases h
  exact LinkHeader.controlByte_fields _ _ _ _ _ _ hfunc

/-- The parser's rules hold for every header that is written. -/
theorem consistent_header (f : Format) : consistent f.header = true := by
  have hlen := f.header_length
  have hfields := f.header_fields
  have hfunc : f.header.getFuncEnum = f.fields.func := congrArg LinkHeaderFields.func hfields
  have hfcb : f.header.isFcbSet = f.fields.fcb := congrArg LinkHeaderFields.fcb hfields
  have hfcv : f.header.isFcvDfcSet = f.fields.fcvdfc := congrArg LinkHeaderFields.fcvdfc hfields
  have hpri : f.header.isPriToSec = f.fields.func.isPrimary :=
    LinkHeader.controlByte_isPriToSec _ _ _ _
  have hvalid : f.header.validLength = true := by
    rw [LinkHeader.validLength, decide_eq_true_iff]
    show (4 : UInt8).toNat < f.header.length.toNat
    have h4 : (4 : UInt8).toNat = 4 := rfl
    omega
  have hcode : LinkLayerParser.validateFunctionCode f.header = true := by
    rw [LinkLayerParser.validateFunctionCode, hpri, hfunc, hfcb, hfcv]
    cases f <;> rfl
  have hpos : decide (LinkLayerParser.userDataLength f.header > 0) =
      decide (0 < f.data.length) := by
    have hnat := LinkLayerParser.userDataLength_toNat hvalid
    rw [decide_eq_decide]
    show (0 : UInt8).toNat < (LinkLayerParser.userDataLength f.header).toNat ↔ _
    have h0 : (0 : UInt8).toNat = 0 := rfl
    omega
  have hcarries : LinkLayerParser.carriesUserData f.header = decide (0 < f.data.length) := by
    rw [LinkLayerParser.carriesUserData, hfunc]
    cases f with
    | confirmedUserData _ _ _ _ data => simp [fields, Format.data, data.pos]
    | unconfirmedUserData _ _ _ data => simp [fields, Format.data, data.pos]
    | _ => rfl
  rw [consistent, hvalid, hcode, hpos, hcarries, Bool.true_and, beq_self_eq_true]
  rfl

/-- What a formatter writes is the frame in front, whatever follows. -/
theorem scan_bytes (f : Format) (back : List UInt8) :
    ScanStep (f.bytes ++ back) back [f.frame] := by
  obtain ⟨hlen, hcrc, hdata⟩ := writeUserData_spec f.data back f.data.length (Nat.le_refl _)
  have hbytes : f.bytes ++ back =
      f.header.write ++ (writeUserData f.data f.data.length ++ back) := by
    rw [f.bytes_eq, List.append_assoc]
  have hread : LinkHeader.read (f.bytes ++ back) = f.header := by
    rw [hbytes, LinkHeader.read_write]
  have hbody : bodyLength (f.bytes ++ back) = f.data.length := by
    rw [bodyLength, hread, f.header_length, LPDU_MIN_LENGTH, Nat.add_sub_cancel]
  have hdrop : (f.bytes ++ back).drop 10 = writeUserData f.data f.data.length ++ back := by
    rw [hbytes, List.drop_left' f.header.length_write]
  have hsize : frameSize (f.bytes ++ back) = f.bytes.length := by
    rw [frameSize, hbody, f.bytes_eq, List.length_append, hlen, LinkHeader.length_write]
  have hframe : frameOf (f.bytes ++ back) = f.frame := by
    rw [frameOf, hread, f.header_fields, hdrop, hbody, hdata, List.take_length]
    rfl
  have hgood : goodHeader (f.bytes ++ back) = true := by
    rw [goodHeader, hread, f.consistent_header, hbytes, LinkHeader.isCorrectCRC_write]
    rfl
  have hgoodBody : goodBody (f.bytes ++ back) = true := by
    rw [goodBody, hdrop, hbody, hcrc]
  have hfits : frameSize (f.bytes ++ back) ≤ (f.bytes ++ back).length := by
    rw [hsize, List.length_append]
    omega
  have hsynced : Synced (f.bytes ++ back) := by
    rw [hbytes]
    exact f.header.synced_write _
  have hstep := ScanStep.frame (Nat.le_trans (ten_le_frameSize _) hfits) hsynced hgood hfits
    hgoodBody
  rwa [hsize, hframe, List.drop_left] at hstep

/-- Bytes without a sync sequence in front of a frame are skipped. -/
theorem scan_prefix (f : Format) (p back : List UInt8)
    (hp : ∀ i < p.length, ¬ Synced ((p ++ f.bytes).drop i)) :
    frameScanner.scan (p ++ (f.bytes ++ back)) = frameScanner.scan (f.bytes ++ back) := by
  induction p with
  | nil => rfl
  | cons b p ih =>
    have hbytes : 10 ≤ f.bytes.length := by
      rw [f.bytes_eq, List.length_append, LinkHeader.length_write]
      omega
    have hlen : 1 < ((b :: p) ++ f.bytes).length := by
      rw [List.length_append, List.length_cons]
      omega
    have hunsynced : ¬ Synced ((b :: p) ++ (f.bytes ++ back)) := by
      rw [← List.append_assoc, synced_append back hlen]
      exact hp 0 (Nat.succ_pos _)
    have hskip := ScanStep.skip (by rw [← List.append_assoc, List.length_append]; omega) hunsynced
    rw [hskip.scan_eq]
    exact ih fun i hi => hp (i + 1) (Nat.succ_lt_succ hi)

end Format

/-! ## What is delivered -/

/-- The bytes of a valid frame, which the parser delivers as `g`: the sync bytes, the length, the
CRC of the header and of every data block, and the parameters of the header are right. -/
structure ValidFrame (bytes : List UInt8) (g : Frame) : Prop where
  synced : Synced bytes
  headerCRC : CRC.isCorrectCRC bytes 8 = true
  parameters : consistent (LinkHeader.read bytes) = true
  size : bytes.length = LinkFrame.calcFrameSize
    (LinkLayerParser.userDataLength (LinkHeader.read bytes))
  bodyCRC : LinkFrame.validateBodyCRC (bytes.drop LPDU_HEADER_SIZE)
    (LinkLayerParser.userDataLength (LinkHeader.read bytes)).toNat = true
  fields : g.1 = (LinkHeader.read bytes).fields
  data : g.2 = LinkFrame.userData (bytes.drop LPDU_HEADER_SIZE)
    (LinkLayerParser.userDataLength (LinkHeader.read bytes)).toNat

/-- Frames stand in the input one behind the other, each a contiguous part of its own. -/
inductive Delivers : List UInt8 → List Frame → Prop where
  | none (input : List UInt8) : Delivers input []
  | frame (before : List UInt8) {bytes after : List UInt8} {g : Frame} {gs : List Frame} :
    ValidFrame bytes g → Delivers after gs → Delivers (before ++ (bytes ++ after)) (g :: gs)

theorem Delivers.skip {input : List UInt8} {gs : List Frame} (front : List UInt8)
    (h : Delivers input gs) : Delivers (front ++ input) gs := by
  cases h with
  | none => exact .none _
  | frame before hvalid hafter =>
    rw [← List.append_assoc]
    exact .frame (front ++ before) hvalid hafter

/-- A frame step finds a valid frame in front. -/
theorem validFrame_take {b : List UInt8} (h10 : 10 ≤ b.length) (hsync : Synced b)
    (hgood : goodHeader b = true) (hsize : frameSize b ≤ b.length) (hbody : goodBody b = true) :
    ValidFrame (b.take (frameSize b)) (frameOf b) := by
  have hten := ten_le_frameSize b
  have hlen : (b.take (frameSize b)).length = frameSize b := List.length_take_of_le hsize
  have hsplit : b.take (frameSize b) ++ b.drop (frameSize b) = b := List.take_append_drop _ _
  generalize hbytes : b.take (frameSize b) = bytes at hlen hsplit ⊢
  generalize b.drop (frameSize b) = back at hsplit
  subst hsplit
  have hframe : bytes.length = frameSize bytes := by
    rw [hlen, frameSize_append back (by omega)]
  rw [goodHeader_append back (by omega), goodHeader, Bool.and_eq_true] at hgood
  rw [synced_append back (by omega)] at hsync
  rw [goodBody_append back (by omega) (by omega)] at hbody
  rw [frameOf_append back (by omega) (by omega)]
  have hvalid : (LinkHeader.read bytes).validLength = true := by
    have hcons := hgood.2
    rw [consistent, Bool.and_eq_true, Bool.and_eq_true] at hcons
    exact hcons.1.1
  have hnat : (LinkLayerParser.userDataLength (LinkHeader.read bytes)).toNat = bodyLength bytes :=
    LinkLayerParser.userDataLength_toNat hvalid
  refine ⟨hsync, hgood.1, hgood.2, ?_, ?_, rfl, ?_⟩
  · rw [LinkFrame.calcFrameSize_eq, hnat, hframe, frameSize]
  · rw [hnat]
    exact hbody
  · rw [hnat]
    rfl

/-- What scanning delivers stands in the input. -/
theorem delivers_scan (b : List UInt8) : Delivers b (frameScanner.scan b).2 := by
  induction b using Scanner.scan_induction (S := frameScanner) with
  | stop b hnext =>
    rw [Scanner.scan_of_next_none hnext]
    exact .none b
  | step b r o hnext ih =>
    have hstep := ScanStep.of_scanNext hnext
    have hskip : Delivers (b.drop 1) (frameScanner.scan (b.drop 1)).2 →
        Delivers b (frameScanner.scan (b.drop 1)).2 := fun h => by
      have hfront := h.skip (b.take 1)
      rwa [List.take_append_drop] at hfront
    cases hstep with
    | skip h1 hs =>
      rw [ScanStep.scan_eq (.skip h1 hs)]
      exact hskip ih
    | badHeader h10 hs hh =>
      rw [ScanStep.scan_eq (.badHeader h10 hs hh)]
      exact hskip ih
    | badBody h10 hs hh hf hb =>
      rw [ScanStep.scan_eq (.badBody h10 hs hh hf hb)]
      exact hskip ih
    | frame h10 hs hh hf hb =>
      rw [ScanStep.scan_frame (.frame h10 hs hh hf hb)]
      have hfront := Delivers.frame [] (validFrame_take h10 hs hh hf hb) ih
      rwa [List.nil_append, List.take_append_drop] at hfront

open LinkLayerParser in
/-- What a new parser delivers is what scanning its whole input delivers. -/
theorem run_initial (rxBuffer : Vector UInt8 LPDU_MAX_FRAME_SIZE)
    (pStatistics : Option LinkChannelStatistics) {chunks : List (List UInt8)}
    (hfits : receiver.Fits (initial rxBuffer pStatistics) chunks) :
    (receiver.run (initial rxBuffer pStatistics) chunks).2 =
      (frameScanner.scan chunks.flatten).2 := by
  have hpending : frameScanner.scan (initial rxBuffer pStatistics).unread = ([], []) :=
    Scanner.scan_of_next_none rfl
  rw [follows_frameScanner.run_out (idle_initial rxBuffer pStatistics) hpending hfits,
    List.nil_append]

open LinkLayerParser in
/-- **Frames round trip.**  However its input is cut into chunks, a parser that is fed what a
formatter writes, behind bytes that hold no sync sequence before the frame's own, delivers that one
frame with the fields and the user data it was formatted from; and whatever the parser is fed, the
frames it delivers stand in its input one behind the other, each valid. -/
theorem linkFrame_round_trip (rxBuffer : Vector UInt8 LPDU_MAX_FRAME_SIZE)
    (pStatistics : Option LinkChannelStatistics) (chunks : List (List UInt8))
    (hfits : receiver.Fits (initial rxBuffer pStatistics) chunks) :
    (∀ (f : Format) (p : List UInt8), (∀ i < p.length, ¬ Synced ((p ++ f.bytes).drop i)) →
        chunks.flatten = p ++ f.bytes →
        (receiver.run (initial rxBuffer pStatistics) chunks).2 = [f.frame]) ∧
      Delivers chunks.flatten (receiver.run (initial rxBuffer pStatistics) chunks).2 := by
  rw [run_initial rxBuffer pStatistics hfits]
  refine ⟨fun f p hp hchunks => ?_, delivers_scan _⟩
  have hprefix := f.scan_prefix p [] hp
  have hframe := (f.scan_bytes []).scan_frame
  have hnil : (frameScanner.scan []).2 = [] := scan_of_length_lt_ten (by decide)
  rw [List.append_nil] at hprefix hframe
  rw [hchunks, hprefix, hframe, hnil]

open LinkLayerParser in
/-- An unconfirmed frame of three bytes behind one byte that is none of its own. -/
theorem linkFrame_round_trip_unconfirmed :
    let p := initial (Vector.replicate LPDU_MAX_FRAME_SIZE 0) none
    let f : Format := .unconfirmedUserData true 1024 1 ⟨[0xC0, 0xC3, 0x17], by decide, by decide⟩
    (receiver.run p [[0x05], f.bytes]).2 = [f.frame] := by
  intro p f
  have hidle := idle_initial (Vector.replicate LPDU_MAX_FRAME_SIZE 0) none
  have hspace : [0x05].length ≤ receiver.space p :=
    Nat.le_trans (by decide) (Nat.le_of_eq (writeBuff_initial _ _).symm)
  have hfits : receiver.Fits p [[0x05], f.bytes] :=
    ⟨⟨by decide, hspace⟩, ⟨by decide +kernel, by decide +kernel⟩, trivial⟩
  exact (linkFrame_round_trip (Vector.replicate LPDU_MAX_FRAME_SIZE 0) none _ hfits).1 f [0x05]
    (by decide +kernel) (by decide +kernel)

end Link
end Dnp3
