import Mathlib.Data.Fin.Basic
import Dnp3.App.HeaderWriter
import Dnp3.App.IINField

/-!
# Headers of application fragments

A fragment starts with a control field and a function code; a response has two bytes of indications
behind them.  `AppControlField` is the control field: whether the fragment is the first and the last
one of its message, whether it asks for a confirm, whether it is unsolicited, and its sequence
number modulo sixteen.

A response is built in a buffer: the objects are written behind the header, and the fields of the
header are set at any time.

Parsing a header fails only when octets are missing; whether the header makes sense for a request or
for a response is checked by those who receive it.  A `TxBuffer` is a response with the bytes of the
response that was recorded last: what was recorded can be transmitted again without being built
again, and this is how an outstation repeats an answer.
-/

namespace Dnp3
namespace App

/-! ## Function codes -/

/-- What a request asks for, or what kind of response it is. -/
inductive FunctionCode where
  | confirm
  | read
  | write
  | select
  | operate
  | directOperate
  | directOperateNr
  | immedFreeze
  | immedFreezeNr
  | freezeClear
  | freezeClearNr
  | freezeAtTime
  | freezeAtTimeNr
  | coldRestart
  | warmRestart
  | initializeData
  | initializeApplication
  | startApplication
  | stopApplication
  | saveConfiguration
  | enableUnsolicited
  | disableUnsolicited
  | assignClass
  | delayMeasure
  | recordCurrentTime
  | openFile
  | closeFile
  | deleteFile
  | getFileInfo
  | authenticateFile
  | abortFile
  | authRequest
  | authRequestNoAck
  | response
  | unsolicitedResponse
  | authResponse
  | unknown
  deriving DecidableEq, Repr

namespace FunctionCode

/-- The code that a function is transmitted as. -/
def toType : FunctionCode → UInt8
  | .confirm => 0x0
  | .read => 0x1
  | .write => 0x2
  | .select => 0x3
  | .operate => 0x4
  | .directOperate => 0x5
  | .directOperateNr => 0x6
  | .immedFreeze => 0x7
  | .immedFreezeNr => 0x8
  | .freezeClear => 0x9
  | .freezeClearNr => 0xA
  | .freezeAtTime => 0xB
  | .freezeAtTimeNr => 0xC
  | .coldRestart => 0xD
  | .warmRestart => 0xE
  | .initializeData => 0xF
  | .initializeApplication => 0x10
  | .startApplication => 0x11
  | .stopApplication => 0x12
  | .saveConfiguration => 0x13
  | .enableUnsolicited => 0x14
  | .disableUnsolicited => 0x15
  | .assignClass => 0x16
  | .delayMeasure => 0x17
  | .recordCurrentTime => 0x18
  | .openFile => 0x19
  | .closeFile => 0x1A
  | .deleteFile => 0x1B
  | .getFileInfo => 0x1C
  | .authenticateFile => 0x1D
  | .abortFile => 0x1E
  | .authRequest => 0x20
  | .authRequestNoAck => 0x21
  | .response => 0x81
  | .unsolicitedResponse => 0x82
  | .authResponse => 0x83
  | .unknown => 0xFF

/-- All other codes are unknown. -/
def fromType (arg : UInt8) : FunctionCode :=
  match arg.toNat with
  | 0x0 => .confirm
  | 0x1 => .read
  | 0x2 => .write
  | 0x3 => .select
  | 0x4 => .operate
  | 0x5 => .directOperate
  | 0x6 => .directOperateNr
  | 0x7 => .immedFreeze
  | 0x8 => .immedFreezeNr
  | 0x9 => .freezeClear
  | 0xA => .freezeClearNr
  | 0xB => .freezeAtTime
  | 0xC => .freezeAtTimeNr
  | 0xD => .coldRestart
  | 0xE => .warmRestart
  | 0xF => .initializeData
  | 0x10 => .initializeApplication
  | 0x11 => .startApplication
  | 0x12 => .stopApplication
  | 0x13 => .saveConfiguration
  | 0x14 => .enableUnsolicited
  | 0x15 => .disableUnsolicited
  | 0x16 => .assignClass
  | 0x17 => .delayMeasure
  | 0x18 => .recordCurrentTime
  | 0x19 => .openFile
  | 0x1A => .closeFile
  | 0x1B => .deleteFile
  | 0x1C => .getFileInfo
  | 0x1D => .authenticateFile
  | 0x1E => .abortFile
  | 0x20 => .authRequest
  | 0x21 => .authRequestNoAck
  | 0x81 => .response
  | 0x82 => .unsolicitedResponse
  | 0x83 => .authResponse
  | _ => .unknown

/-- Every function code survives its transmission. -/
@[simp] theorem fromType_toType (fc : FunctionCode) : fromType fc.toType = fc := by
  cases fc <;> rfl

/-- `Functions::IsNoAckFuncCode`: requests without a response. -/
def isNoAckFuncCode : FunctionCode → Bool
  | .directOperateNr => true
  | .immedFreezeNr => true
  | .freezeAtTimeNr => true
  | .freezeClearNr => true
  | _ => false

end FunctionCode

/-! ## The control field -/

/-- There are sixteen sequence numbers, so that there is a first one. -/
instance instNeZeroSixteen : NeZero 16 := ⟨by decide⟩

/-- Sequence numbers of the application layer. -/
abbrev AppSeqNum := Fin 16

/-- The first octet of a fragment: whether it is the first and the last of its message, asks for a
confirm, is unsolicited, and its sequence number. -/
structure AppControlField where
  FIR : Bool
  FIN : Bool
  CON : Bool
  UNS : Bool
  SEQ : AppSeqNum
  deriving DecidableEq, Repr

namespace AppControlField

/-- The bit of a first fragment. -/
def FIR_MASK : UInt8 := 0x80

/-- The bit of a last fragment. -/
def FIN_MASK : UInt8 := 0x40

/-- The bit of a fragment that asks for a confirm. -/
def CON_MASK : UInt8 := 0x20

/-- The bit of an unsolicited fragment. -/
def UNS_MASK : UInt8 := 0x10

/-- The field that an octet stands for. -/
def ofByte (byte : UInt8) : AppControlField where
  FIR := byte &&& FIR_MASK != 0
  FIN := byte &&& FIN_MASK != 0
  CON := byte &&& CON_MASK != 0
  UNS := byte &&& UNS_MASK != 0
  SEQ := Fin.ofNat 16 byte.toNat

/-- The octet of a field. -/
def toByte (c : AppControlField) : UInt8 :=
  (if c.FIR then FIR_MASK else 0) ||| (if c.FIN then FIN_MASK else 0) |||
    (if c.CON then CON_MASK else 0) ||| (if c.UNS then UNS_MASK else 0) ||| UInt8.ofNat c.SEQ.val

/-- A control field survives its transmission. -/
@[simp] theorem ofByte_toByte (c : AppControlField) : ofByte c.toByte = c := by
  obtain ⟨fir, fin, con, uns, seq⟩ := c
  revert fir fin con uns seq
  decide

/-- `AppControlField::Request`: a single fragment that asks for no confirm. -/
def request (seq : AppSeqNum) : AppControlField :=
  { FIR := true, FIN := true, CON := false, UNS := false, SEQ := seq }

/-- The fragment is a message of its own. -/
def isFirAndFin (c : AppControlField) : Bool := c.FIR && c.FIN

end AppControlField

/-! ## Parsing a header -/

/-- What every fragment begins with. -/
structure APDUHeader where
  function : FunctionCode
  control : AppControlField
  deriving DecidableEq, Repr

/-- What a response begins with: the indications come behind the header. -/
structure APDUResponseHeader extends APDUHeader where
  IIN : IINField
  deriving DecidableEq, Repr

namespace APDUHeader

/-- The header of a confirm. -/
def confirm (seq : AppSeqNum) (unsolicited : Bool) : APDUHeader where
  function := .confirm
  control := { FIR := true, FIN := true, CON := false, UNS := unsolicited, SEQ := seq }

end APDUHeader

namespace APDUHeaderParser

/-- A request has at least the two octets of its header. -/
def parseRequest (apdu : List UInt8) : Option APDUHeader :=
  match apdu with
  | control :: function :: _ => some { function := .fromType function, control := .ofByte control }
  | _ => none

/-- A response has at least the four octets of its header. -/
def parseResponse (apdu : List UInt8) : Option APDUResponseHeader :=
  match apdu with
  | control :: function :: lsb :: msb :: _ =>
    some { function := .fromType function, control := .ofByte control,
           IIN := { LSB := lsb, MSB := msb } }
  | _ => none

end APDUHeaderParser

/-! ## Building a response -/

/-- A response in a buffer of at least four bytes: the objects end at the position. -/
structure APDUResponse where
  slice : WSlice
  deriving DecidableEq, Repr

namespace APDUResponse

/-- Start behind the header. -/
def create (buffer : List UInt8) : APDUResponse := ⟨(WSlice.ofMemory buffer).advance 4⟩

/-- Overwrite the control octet. -/
def setControl (r : APDUResponse) (control : AppControlField) : APDUResponse :=
  ⟨r.slice.patch 0 [control.toByte]⟩

/-- Overwrite the function code. -/
def setFunction (r : APDUResponse) (code : FunctionCode) : APDUResponse :=
  ⟨r.slice.patch 1 [code.toType]⟩

/-- Overwrite the indications. -/
def setIIN (r : APDUResponse) (indications : IINField) : APDUResponse :=
  ⟨r.slice.patch 2 [indications.LSB, indications.MSB]⟩

/-- A writer of what comes behind the header. -/
def getWriter (r : APDUResponse) : HeaderWriter := .ofSlice r.slice

/-- The response after its writer has been used. -/
def withWriter (_ : APDUResponse) (writer : HeaderWriter) : APDUResponse := ⟨writer.position⟩

/-- What has been written. -/
def toRSlice (r : APDUResponse) : List UInt8 := r.slice.written

end APDUResponse

/-! ## Transmit buffers -/

/-- The buffer responses are built in; the last one stays in front of it. -/
structure TxBuffer where
  buffer : List UInt8
  /-- The size of the last response. -/
  lastSize : Nat
  deriving DecidableEq, Repr

namespace TxBuffer

/-- A buffer that nothing was built in. -/
def initial (maxTxSize : Nat) : TxBuffer := { buffer := List.replicate maxTxSize 0, lastSize := 0 }

/-- An empty response in the buffer, behind room for its header. -/
def start (tx : TxBuffer) : APDUResponse := .create tx.buffer

/-- `Record`, of a response that was built in the buffer. -/
def record (_ : TxBuffer) (response : APDUResponse) : TxBuffer :=
  { buffer := response.slice.mem, lastSize := response.slice.pos }

/-- The response that was recorded last. -/
def getLastResponse (tx : TxBuffer) : List UInt8 := tx.buffer.take tx.lastSize

/-- A response that is recorded is the last one. -/
@[simp] theorem getLastResponse_record (tx : TxBuffer) (response : APDUResponse) :
    (tx.record response).getLastResponse = response.toRSlice := rfl

end TxBuffer
end App
end Dnp3
