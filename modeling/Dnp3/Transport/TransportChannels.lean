import Dnp3.Library.Memory

/-!
# The transport layer's channels

The transmitter cuts an APDU into segments of at most 249 bytes, each behind a header octet.  The
link layer asks for the current segment as often as it likes and advances to the next one when it
is done with it.  The receiver collects the payloads of segments whose sequence numbers follow each
other, from one with the FIR bit to one with the FIN bit.

A receiver looks at the octet in front of a segment.  A segment that is first begins a new APDU and
drops what is there; any other has to have the next number, and is an error otherwise.  A segment
that does not fit into the buffer is an error as well, and is dropped with everything that was
received before.  The statistics are counted where the source counts them, and are only there when
they were asked for.
-/

namespace Dnp3
namespace Transport

open Library

/-- Transport header bitmasks. -/
def TL_HDR_FIN : UInt8 := 0x80

/-- The bit of a first segment. -/
def TL_HDR_FIR : UInt8 := 0x40

/-- The bits of the sequence number. -/
def TL_HDR_SEQ : UInt8 := 0x3F

/-- Maximum TPDU payload size. -/
def MAX_TPDU_PAYLOAD : Nat := 249

/-- What the transport layer counts. -/
structure StackStatistics where
  numTransportErrorRx : UInt32
  numTransportRx : UInt32
  numTransportTx : UInt32
  deriving DecidableEq, Repr

/-- The next sequence number modulo 64. -/
def nextSeq (seq : UInt8) : UInt8 := (seq + 1) % 64

/-! ## The send channel -/

/-- State of the transport layer's send channel. -/
structure TransportTx where
  /-- What is left of the APDU. -/
  apdu : List UInt8
  /-- The segment that was last asked for. -/
  txSegment : Option (List UInt8)
  sequence : UInt8
  tpduCount : Nat
  pStatistics : Option StackStatistics
  deriving DecidableEq, Repr

namespace TransportTx

/-- The transmitter a transport layer is constructed with. -/
def initial (pStatistics : Option StackStatistics) : TransportTx where
  apdu := []
  txSegment := none
  sequence := 0
  tpduCount := 0
  pStatistics := pStatistics

/-- Begin with the segments of an APDU. -/
def configure (tx : TransportTx) (output : List UInt8) : TransportTx :=
  { tx with txSegment := none, apdu := output, tpduCount := 0 }

/-- The octet in front of a segment. -/
def getHeader (fir fin : Bool) (sequence : UInt8) : UInt8 :=
  (if fir then TL_HDR_FIR else 0) ||| (if fin then TL_HDR_FIN else 0) |||
    (TL_HDR_SEQ &&& sequence)

/-- The payload bytes of the current segment. -/
def numToSend (tx : TransportTx) : Nat :=
  if tx.apdu.length < MAX_TPDU_PAYLOAD then tx.apdu.length else MAX_TPDU_PAYLOAD

/-- A segment was taken. -/
def countTx (tx : TransportTx) : TransportTx :=
  { tx with pStatistics :=
      tx.pStatistics.map fun s => { s with numTransportTx := s.numTransportTx + 1 } }

/-- The current segment, formatted if it was not asked for before. -/
def getSegment (tx : TransportTx) : List UInt8 × TransportTx :=
  match tx.txSegment with
  | some segment => (segment, tx)
  | none =>
    let fir := tx.tpduCount == 0
    let fin := tx.numToSend == tx.apdu.length
    let segment := getHeader fir fin tx.sequence :: tx.apdu.take tx.numToSend
    (segment, { tx.countTx with txSegment := some segment })

/-- Go on to the next segment, if there is one. -/
def advance (tx : TransportTx) : Bool × TransportTx :=
  let rest := tx.apdu.drop tx.numToSend
  (!rest.isEmpty, { tx with
    txSegment := none
    apdu := rest
    tpduCount := tx.tpduCount + 1
    sequence := nextSeq tx.sequence })

end TransportTx

/-! ## The receive channel -/

/-- State of the transport layer's receive channel. -/
structure TransportRx where
  /-- A buffer of the maximum fragment size. -/
  rxBuffer : List UInt8
  numBytesRead : Nat
  sequence : UInt8
  pStatistics : Option StackStatistics
  deriving DecidableEq, Repr

/-- The fields of a segment's header octet. -/
def isFirst (hdr : UInt8) : Bool := hdr &&& TL_HDR_FIR != 0

/-- The segment is the last one of its APDU. -/
def isLast (hdr : UInt8) : Bool := hdr &&& TL_HDR_FIN != 0

/-- The number of the segment. -/
def seqOf (hdr : UInt8) : UInt8 := hdr &&& TL_HDR_SEQ

namespace TransportRx

/-- The receiver a transport layer is constructed with; what the buffer holds is arbitrary. -/
def initial (rxBuffer : List UInt8) (pStatistics : Option StackStatistics) : TransportRx where
  rxBuffer := rxBuffer
  numBytesRead := 0
  sequence := 0
  pStatistics := pStatistics

/-- Drop what was received. -/
def clearRxBuffer (rx : TransportRx) : TransportRx := { rx with numBytesRead := 0 }

/-- Drop what was received, and wait for any number. -/
def reset (rx : TransportRx) : TransportRx := { rx with sequence := 0 }.clearRxBuffer

/-- The size of what `GetAvailable` returns. -/
def available (rx : TransportRx) : Nat := rx.rxBuffer.length - rx.numBytesRead

/-- A segment was of no use. -/
def countError (rx : TransportRx) : TransportRx :=
  { rx with pStatistics :=
      rx.pStatistics.map fun s => { s with numTransportErrorRx := s.numTransportErrorRx + 1 } }

/-- A segment was taken. -/
def countRx (rx : TransportRx) : TransportRx :=
  { rx with pStatistics :=
      rx.pStatistics.map fun s => { s with numTransportRx := s.numTransportRx + 1 } }

/-- The segment begins an APDU, or is the next one of it. -/
def validateHeader (rx : TransportRx) (fir : Bool) (sequence : UInt8) : TransportRx × Bool :=
  if fir then
    -- always accept the sequence on FIR and drop what was received before
    ({ rx with sequence := sequence, numBytesRead := 0 }, true)
  else if rx.numBytesRead == 0 then (rx, false)
  else (rx, sequence == rx.sequence)

/-- Take in the payload of a segment that passed all validation. -/
def store (rx : TransportRx) (payload : List UInt8) : TransportRx :=
  { rx.countRx with
    rxBuffer := splice rx.rxBuffer rx.numBytesRead payload
    numBytesRead := rx.numBytesRead + payload.length
    sequence := nextSeq rx.sequence }

/-- What was read so far. -/
def received (rx : TransportRx) : List UInt8 := rx.rxBuffer.take rx.numBytesRead

/-- Take a segment, which may complete an APDU. -/
def processReceive (rx : TransportRx) : List UInt8 → List UInt8 × TransportRx
  | [] => ([], rx.countError)
  | hdr :: payload =>
    match rx.validateHeader (isFirst hdr) (seqOf hdr) with
    | (rx, false) => ([], rx.countError)
    | (rx, true) =>
      if payload.length > rx.available then ([], rx.countError.clearRxBuffer)
      else
        let rx := rx.store payload
        if isLast hdr then (rx.received, rx.clearRxBuffer) else ([], rx)

end TransportRx
end Transport
end Dnp3
