import Dnp3.Library.Memory
import Dnp3.Link.Crc
import Mathlib.Data.List.GetD

/-!
# Link frames

The ten-byte link header with its control octet, and the user data that follows it in blocks of
sixteen bytes, each with two bytes of CRC.  Buffers that the source addresses by pointer are lists
of bytes with a position.

The length octet counts five octets of the header and the user data, so that there are at most 250
bytes of user data; the length of the frame itself has the checksums in it.  `calcFrameSize` and
`validateBodyCRC` are written block by block, as the loops of the source, and `block_induction` is
the induction that goes with them.

`readUserData` is the in-place extraction: it copies the data of every block over what has been
read.  `readUserData_eq` states that it yields the data although source and destination overlap, as
the destination is never behind the source.  The last section says that all checks look only at the
bytes of the frame.
-/

namespace Dnp3
namespace Link

open Library

/-! ## The link header -/

/-- Link layer function codes. -/
inductive LinkFunction where
  | priResetLinkStates
  | priTestLinkStates
  | priConfirmedUserData
  | priUnconfirmedUserData
  | priRequestLinkStatus
  | secAck
  | secNack
  | secLinkStatus
  | secNotSupported
  | invalid
  deriving DecidableEq, Repr

/-- `LinkFunctionFromType`: the function code with the PRM bit in front. -/
def LinkFunction.fromType (arg : UInt8) : LinkFunction :=
  if arg = 0x40 then .priResetLinkStates
  else if arg = 0x42 then .priTestLinkStates
  else if arg = 0x43 then .priConfirmedUserData
  else if arg = 0x44 then .priUnconfirmedUserData
  else if arg = 0x49 then .priRequestLinkStatus
  else if arg = 0x00 then .secAck
  else if arg = 0x01 then .secNack
  else if arg = 0x0B then .secLinkStatus
  else if arg = 0x0F then .secNotSupported
  else .invalid

/-- The bit of a frame that comes from a master. -/
def MASK_DIR : UInt8 := 0x80

/-- The bit of a frame that comes from a primary station. -/
def MASK_PRM : UInt8 := 0x40

/-- The frame count bit. -/
def MASK_FCB : UInt8 := 0x20

/-- The bit that says whether the frame count bit counts, or that a station has no room. -/
def MASK_FCV : UInt8 := 0x10

/-- The bits of the function. -/
def MASK_FUNC : UInt8 := 0x0F

/-- The bits that tell which function it is. -/
def MASK_FUNC_OR_PRM : UInt8 := MASK_PRM ||| MASK_FUNC

/-- The fields read from the ten header bytes. -/
structure LinkHeader where
  length : UInt8
  src : UInt16
  dest : UInt16
  ctrl : UInt8
  deriving DecidableEq, Repr

namespace LinkHeader

/-- The header a parser is constructed with. -/
def initial : LinkHeader := { length := 5, src := 0, dest := 0, ctrl := 0 }

/-- The frame comes from a master. -/
def isFromMaster (h : LinkHeader) : Bool := h.ctrl &&& MASK_DIR != 0

/-- The frame comes from a primary station. -/
def isPriToSec (h : LinkHeader) : Bool := h.ctrl &&& MASK_PRM != 0

/-- The frame count bit is set. -/
def isFcbSet (h : LinkHeader) : Bool := h.ctrl &&& MASK_FCB != 0

/-- The frame count bit counts, or the station has no room. -/
def isFcvDfcSet (h : LinkHeader) : Bool := h.ctrl &&& MASK_FCV != 0

/-- The function, of a primary or of a secondary station. -/
def getFuncEnum (h : LinkHeader) : LinkFunction := .fromType (h.ctrl &&& MASK_FUNC_OR_PRM)

/-- The length covers the fields behind it. -/
def validLength (h : LinkHeader) : Bool := h.length > 4

/-- Read all fields; neither the sync bytes nor the CRC are looked at. -/
def read (apBuff : List UInt8) : LinkHeader where
  length := apBuff.getD 2 0
  dest := readUInt16 apBuff 4
  src := readUInt16 apBuff 6
  ctrl := apBuff.getD 3 0

end LinkHeader

/-- What the sink of a parser is told about a frame's header. -/
structure LinkHeaderFields where
  func : LinkFunction
  isFromMaster : Bool
  fcb : Bool
  fcvdfc : Bool
  dest : UInt16
  src : UInt16
  deriving DecidableEq, Repr

/-- The fields of a parsed header. -/
def LinkHeader.fields (h : LinkHeader) : LinkHeaderFields where
  func := h.getFuncEnum
  isFromMaster := h.isFromMaster
  fcb := h.isFcbSet
  fcvdfc := h.isFcvDfcSet
  dest := h.dest
  src := h.src

/-! ## The frame body -/

namespace LinkFrame

/-- The bytes `dataLength` bytes of user data take with their block CRCs. -/
def calcUserDataSize (dataLength : UInt8) : Nat :=
  if dataLength > 0 then
    let mod16 := dataLength.toNat % LPDU_DATA_BLOCK_SIZE
    let size := (dataLength.toNat / LPDU_DATA_BLOCK_SIZE) * LPDU_DATA_PLUS_CRC_SIZE
    if mod16 > 0 then size + mod16 + LPDU_CRC_SIZE else size
  else 0

/-- The bytes of a frame with so much user data. -/
def calcFrameSize (dataLength : UInt8) : Nat :=
  LPDU_HEADER_SIZE + calcUserDataSize dataLength

/-- Remove the CRCs: the data bytes of each block at `pSrc` are moved to `pDest`, both positions of
one memory. -/
def readUserData (mem : List UInt8) (pSrc pDest length : Nat) : List UInt8 :=
  if length = 0 then mem
  else
    let num := min length LPDU_DATA_BLOCK_SIZE
    readUserData (memmove mem pDest pSrc num) (pSrc + (num + 2)) (pDest + num) (length - num)
termination_by length
decreasing_by simp only [LPDU_DATA_BLOCK_SIZE]; omega

/-- Every block of the body has its correct CRC. -/
def validateBodyCRC (pBody : List UInt8) (length : Nat) : Bool :=
  if length = 0 then true
  else
    let num := min length LPDU_DATA_BLOCK_SIZE
    if CRC.isCorrectCRC pBody num then validateBodyCRC (pBody.drop (num + 2)) (length - num)
    else false
termination_by length
decreasing_by simp only [LPDU_DATA_BLOCK_SIZE]; omega

/-- The data bytes of a body: what `readUserData` moves to its destination. -/
def userData (pBody : List UInt8) (length : Nat) : List UInt8 :=
  if length = 0 then []
  else
    let num := min length LPDU_DATA_BLOCK_SIZE
    pBody.take num ++ userData (pBody.drop (num + 2)) (length - num)
termination_by length
decreasing_by simp only [LPDU_DATA_BLOCK_SIZE]; omega

/-- The size of a body of `length` data bytes, as the block loops consume it. -/
def bodySize (length : Nat) : Nat := length + 2 * ((length + 15) / 16)

theorem bodySize_block {length : Nat} (h : length ≠ 0) :
    bodySize length = min length 16 + 2 + bodySize (length - min length 16) := by
  simp only [bodySize]
  omega

theorem calcUserDataSize_eq (dataLength : UInt8) :
    calcUserDataSize dataLength = bodySize dataLength.toNat := by
  have hpos : dataLength > 0 ↔ 0 < dataLength.toNat := UInt8.lt_iff_toNat_lt
  simp only [calcUserDataSize, bodySize, LPDU_DATA_BLOCK_SIZE, LPDU_DATA_PLUS_CRC_SIZE,
    LPDU_CRC_SIZE, hpos]
  by_cases h : 0 < dataLength.toNat
  · rw [if_pos h]
    by_cases hmod : dataLength.toNat % 16 > 0
    · rw [if_pos hmod]
      omega
    · rw [if_neg hmod]
      omega
  · rw [if_neg h]
    omega

theorem calcFrameSize_eq (dataLength : UInt8) :
    calcFrameSize dataLength = 10 + bodySize dataLength.toNat := by
  rw [calcFrameSize, calcUserDataSize_eq, LPDU_HEADER_SIZE]

theorem readUserData_zero (mem : List UInt8) (pSrc pDest : Nat) :
    readUserData mem pSrc pDest 0 = mem := by
  rw [readUserData, if_pos rfl]

theorem readUserData_block (mem : List UInt8) (pSrc pDest : Nat) {length : Nat}
    (h : length ≠ 0) :
    readUserData mem pSrc pDest length =
      readUserData (memmove mem pDest pSrc (min length 16)) (pSrc + (min length 16 + 2))
        (pDest + min length 16) (length - min length 16) := by
  rw [readUserData, if_neg h]

theorem validateBodyCRC_zero (pBody : List UInt8) : validateBodyCRC pBody 0 = true := by
  rw [validateBodyCRC, if_pos rfl]

theorem validateBodyCRC_block (pBody : List UInt8) {length : Nat} (h : length ≠ 0) :
    validateBodyCRC pBody length =
      (CRC.isCorrectCRC pBody (min length 16) &&
        validateBodyCRC (pBody.drop (min length 16 + 2)) (length - min length 16)) := by
  rw [validateBodyCRC, if_neg h]
  by_cases hc : CRC.isCorrectCRC pBody (min length 16) = true
  · rw [hc, Bool.true_and]
    exact if_pos hc
  · rw [Bool.eq_false_iff.mpr hc, Bool.false_and]
    exact if_neg hc

theorem userData_zero (pBody : List UInt8) : userData pBody 0 = [] := by
  rw [userData, if_pos rfl]

theorem userData_block (pBody : List UInt8) {length : Nat} (h : length ≠ 0) :
    userData pBody length = pBody.take (min length 16) ++
      userData (pBody.drop (min length 16 + 2)) (length - min length 16) := by
  rw [userData, if_neg h]

/-- Induction over the blocks of a body. -/
theorem block_induction {motive : Nat → Prop} (zero : motive 0)
    (block : ∀ length, length ≠ 0 → motive (length - min length 16) → motive length)
    (length : Nat) : motive length := by
  induction length using Nat.strongRecOn with
  | _ length ih =>
    by_cases h : length = 0
    · rw [h]
      exact zero
    · exact block length h (ih _ (by omega))

theorem length_userData (pBody : List UInt8) (length : Nat)
    (h : bodySize length ≤ pBody.length) : (userData pBody length).length = length := by
  induction length using block_induction generalizing pBody with
  | zero => rw [userData_zero, List.length_nil]
  | block length h0 ih =>
    have hsize := bodySize_block h0
    have hrest := ih (pBody.drop (min length 16 + 2)) (by rw [List.length_drop]; omega)
    rw [userData_block pBody h0, List.length_append, List.length_take, hrest]
    omega

/-- **Removing the CRCs in place.**  When the data is moved towards the front of the memory, the
block loop writes exactly the data bytes of the body, although its moves may overlap. -/
theorem readUserData_eq (mem : List UInt8) (pSrc pDest length : Nat) (hle : pDest ≤ pSrc)
    (hmem : pSrc + bodySize length ≤ mem.length) :
    readUserData mem pSrc pDest length = splice mem pDest (userData (mem.drop pSrc) length) := by
  induction length using block_induction generalizing mem pSrc pDest with
  | zero => rw [readUserData_zero, userData_zero, splice_nil]
  | block length h0 ih =>
    have hsize := bodySize_block h0
    have hnum : ((mem.drop pSrc).take (min length 16)).length = min length 16 := by
      rw [List.length_take, List.length_drop]
      omega
    have hmoved : (memmove mem pDest pSrc (min length 16)).length = mem.length := by
      rw [memmove, length_splice (by omega)]
    have hbehind : (memmove mem pDest pSrc (min length 16)).drop (pSrc + (min length 16 + 2)) =
        (mem.drop pSrc).drop (min length 16 + 2) := by
      rw [memmove, drop_splice (by omega) (by omega), List.drop_drop]
    have hrest := ih (memmove mem pDest pSrc (min length 16)) (pSrc + (min length 16 + 2))
      (pDest + min length 16) (by omega) (by omega)
    have hjoin := splice_splice ((mem.drop pSrc).take (min length 16))
      (userData ((mem.drop pSrc).drop (min length 16 + 2)) (length - min length 16))
      (show pDest ≤ mem.length by omega)
    rw [hnum] at hjoin
    rw [readUserData_block mem pSrc pDest h0, hrest, hbehind, memmove, hjoin,
      userData_block (mem.drop pSrc) h0]

/-! ### Bytes behind the frame do not matter -/

theorem readUInt16_append (b z : List UInt8) (pos : Nat)
    (h : pos + 2 ≤ b.length) : readUInt16 (b ++ z) pos = readUInt16 b pos := by
  rw [readUInt16, readUInt16, List.getD_append _ _ _ _ (by omega),
    List.getD_append _ _ _ _ (by omega)]

theorem isCorrectCRC_append (b z : List UInt8) (length : Nat)
    (h : length + 2 ≤ b.length) :
    CRC.isCorrectCRC (b ++ z) length = CRC.isCorrectCRC b length := by
  rw [CRC.isCorrectCRC, CRC.isCorrectCRC, readUInt16_append b z length h,
    List.take_append_of_le_length (by omega)]

theorem read_append {b : List UInt8} (z : List UInt8) (h : 10 ≤ b.length) :
    LinkHeader.read (b ++ z) = LinkHeader.read b := by
  simp only [LinkHeader.read, readUInt16_append b z 4 (by omega),
    readUInt16_append b z 6 (by omega),
    List.getD_append b z 0 2 (by omega), List.getD_append b z 0 3 (by omega)]

theorem validateBodyCRC_append (b z : List UInt8) (length : Nat)
    (h : bodySize length ≤ b.length) :
    validateBodyCRC (b ++ z) length = validateBodyCRC b length := by
  induction length using block_induction generalizing b with
  | zero => rw [validateBodyCRC_zero, validateBodyCRC_zero]
  | block length h0 ih =>
    have hsize := bodySize_block h0
    rw [validateBodyCRC_block _ h0, validateBodyCRC_block _ h0, isCorrectCRC_append b z _ (by omega),
      List.drop_append_of_le_length (by omega), ih _ (by rw [List.length_drop]; omega)]

theorem userData_append (b z : List UInt8) (length : Nat)
    (h : bodySize length ≤ b.length) : userData (b ++ z) length = userData b length := by
  induction length using block_induction generalizing b with
  | zero => rw [userData_zero, userData_zero]
  | block length h0 ih =>
    have hsize := bodySize_block h0
    rw [userData_block _ h0, userData_block _ h0, List.take_append_of_le_length (by omega),
      List.drop_append_of_le_length (by omega), ih _ (by rw [List.length_drop]; omega)]

end LinkFrame
end Link
end Dnp3
