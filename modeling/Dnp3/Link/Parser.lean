import Dnp3.Link.Frame

/-!
# The link layer parser

`ShiftableBuffer` is the receive buffer: a fixed memory with a write and a read position, whose
unread bytes are shifted to the front after every read.  `LinkLayerParser` resumes a three-state
machine over it: it looks for the sync bytes, reads the header, reads the body, and hands complete
frames to its sink.  A frame whose header or body is bad is given up by advancing the read position
by one byte and looking for the sync bytes again.

The loops of the source run as long as they make progress.  Here they take fuel;
`Dnp3.Link.ParserScan` shows that the amounts given are enough.
-/

namespace Dnp3
namespace Link

open Library

/-! ## The receive buffer -/

/-- A memory whose unread bytes lie between the read and the write position. -/
structure ShiftableBuffer where
  pBuffer : List UInt8
  writePos : Nat
  readPos : Nat
  deriving DecidableEq, Repr

namespace ShiftableBuffer

/-- The size of the buffer. -/
def M_SIZE (b : ShiftableBuffer) : Nat := b.pBuffer.length

/-- The bytes that have not been parsed. -/
def numBytesRead (b : ShiftableBuffer) : Nat := b.writePos - b.readPos

/-- The bytes that can be written without a shift. -/
def numWriteBytes (b : ShiftableBuffer) : Nat := b.M_SIZE - b.writePos

/-- The bytes that are received and not yet used. -/
def readBuffer (b : ShiftableBuffer) : List UInt8 := (b.pBuffer.drop b.readPos).take b.numBytesRead

/-- Forget all bytes. -/
def reset (b : ShiftableBuffer) : ShiftableBuffer := { b with writePos := 0, readPos := 0 }

/-- So many bytes have been parsed. -/
def advanceRead (b : ShiftableBuffer) (numBytes : Nat) : ShiftableBuffer :=
  { b with readPos := b.readPos + numBytes }

/-- So many bytes have been written. -/
def advanceWrite (b : ShiftableBuffer) (numBytes : Nat) : ShiftableBuffer :=
  { b with writePos := b.writePos + numBytes }

/-- Copy the unread bytes to the front of the memory. -/
def shift (b : ShiftableBuffer) : ShiftableBuffer where
  pBuffer := memmove b.pBuffer 0 b.readPos b.numBytesRead
  writePos := b.numBytesRead
  readPos := 0

/-- Advance to the sync bytes; `false` when at most one byte is left. -/
def sync (b : ShiftableBuffer) : ShiftableBuffer × Bool :=
  if 1 < b.numBytesRead then
    if b.readBuffer.getD 0 0 = 0x05 ∧ b.readBuffer.getD 1 0 = 0x64 then (b, true)
    else sync (b.advanceRead 1)
  else (b, false)
termination_by b.numBytesRead
decreasing_by
  simp only [numBytesRead, advanceRead] at *
  omega

/-- The bytes a reader stored at the write position. -/
def store (b : ShiftableBuffer) (chunk : List UInt8) : ShiftableBuffer :=
  { b with pBuffer := splice b.pBuffer b.writePos chunk }

end ShiftableBuffer

/-! ## The parser -/

/-- The counters of the channel the parser writes to. -/
structure LinkChannelStatistics where
  numCrcError : UInt32
  numLinkFrameRx : UInt32
  numBadLinkFrameRx : UInt32
  deriving DecidableEq, Repr

/-- What the parser is waiting for. -/
inductive LinkLayerParser.State where
  | findSync
  | readHeader
  | readBody
  | complete
  deriving DecidableEq, Repr

/-- The parser.  `buffer` is the facade over the receive memory, and the user data of a complete
frame is a slice of the first `userDataLen` bytes of that same memory. -/
structure LinkLayerParser where
  header : LinkHeader
  state : LinkLayerParser.State
  frameSize : Nat
  userDataLen : Nat
  buffer : ShiftableBuffer
  pStatistics : Option LinkChannelStatistics
  deriving DecidableEq, Repr

/-- A frame as the sink receives it. -/
abbrev Frame := LinkHeaderFields × List UInt8

namespace LinkLayerParser

/-- The constructed parser.  The receive memory is not initialised, so it is a parameter. -/
def initial (rxBuffer : Vector UInt8 LPDU_MAX_FRAME_SIZE)
    (pStatistics : Option LinkChannelStatistics) : LinkLayerParser where
  header := .initial
  state := .findSync
  frameSize := 0
  userDataLen := 0
  buffer := { pBuffer := rxBuffer.toList, writePos := 0, readPos := 0 }
  pStatistics := pStatistics

/-- Start over with an empty buffer. -/
def reset (p : LinkLayerParser) : LinkLayerParser :=
  { p with state := .findSync, frameSize := 0, buffer := p.buffer.reset }

/-- The size of the slice offered for writing. -/
def writeBuff (p : LinkLayerParser) : Nat := p.buffer.numWriteBytes

/-- Go to a state. -/
def setState (p : LinkLayerParser) (state : State) : LinkLayerParser := { p with state := state }

@[simp] theorem setState_state (p : LinkLayerParser) (s : State) : (p.setState s).state = s := rfl

@[simp] theorem setState_buffer (p : LinkLayerParser) (s : State) :
    (p.setState s).buffer = p.buffer := rfl

@[simp] theorem setState_header (p : LinkLayerParser) (s : State) :
    (p.setState s).header = p.header := rfl

@[simp] theorem setState_frameSize (p : LinkLayerParser) (s : State) :
    (p.setState s).frameSize = p.frameSize := rfl

/-- A checksum was wrong. -/
def countCrcError (p : LinkLayerParser) : LinkLayerParser :=
  { p with pStatistics := p.pStatistics.map fun s => { s with numCrcError := s.numCrcError + 1 } }

/-- A header made no sense. -/
def countBadFrame (p : LinkLayerParser) : LinkLayerParser :=
  { p with pStatistics :=
      p.pStatistics.map fun s => { s with numBadLinkFrameRx := s.numBadLinkFrameRx + 1 } }

/-- A frame was delivered. -/
def countFrame (p : LinkLayerParser) : LinkLayerParser :=
  { p with pStatistics :=
      p.pStatistics.map fun s => { s with numLinkFrameRx := s.numLinkFrameRx + 1 } }

@[simp] theorem countCrcError_buffer (p : LinkLayerParser) :
    p.countCrcError.buffer = p.buffer := rfl

@[simp] theorem countBadFrame_buffer (p : LinkLayerParser) :
    p.countBadFrame.buffer = p.buffer := rfl

@[simp] theorem countCrcError_header (p : LinkLayerParser) :
    p.countCrcError.header = p.header := rfl

@[simp] theorem countBadFrame_header (p : LinkLayerParser) :
    p.countBadFrame.header = p.header := rfl

/-- The function code is known and the FCV bit is the one it asks for. -/
def validateFunctionCode (header : LinkHeader) : Bool :=
  if header.isPriToSec then
    match header.getFuncEnum with
    | .priConfirmedUserData | .priTestLinkStates => header.isFcvDfcSet == true
    | .priRequestLinkStatus | .priResetLinkStates | .priUnconfirmedUserData =>
      header.isFcvDfcSet == false
    | _ => false
  else
    match header.getFuncEnum with
    | .secAck | .secNack | .secLinkStatus | .secNotSupported => !header.isFcbSet
    | _ => false

/-- The number of user data bytes a header announces. -/
def userDataLength (header : LinkHeader) : UInt8 := header.length - UInt8.ofNat LPDU_MIN_LENGTH

/-- The function code is one of those whose frames carry user data. -/
def carriesUserData (header : LinkHeader) : Bool :=
  header.getFuncEnum = .priConfirmedUserData ∨ header.getFuncEnum = .priUnconfirmedUserData

/-- Validate the header parameters and set the size of the frame. -/
def validateHeaderParameters (p : LinkLayerParser) : LinkLayerParser × Bool :=
  if !p.header.validLength then (p, false)
  else if !validateFunctionCode p.header then (p, false)
  else
    let user_data_length := userDataLength p.header
    let p := { p with frameSize := LinkFrame.calcFrameSize user_data_length }
    -- the source makes this comparison twice; the second time it finds nothing new
    if carriesUserData p.header then
      if user_data_length > 0 then
        ({ p with frameSize := LinkFrame.calcFrameSize user_data_length }, true)
      else (p, false)
    else if user_data_length > 0 then (p, false)
    else (p, true)

/-- `header.Read(buffer.ReadBuffer())`. -/
def loadHeader (p : LinkLayerParser) : LinkLayerParser :=
  { p with header := .read p.buffer.readBuffer }

@[simp] theorem loadHeader_buffer (p : LinkLayerParser) : p.loadHeader.buffer = p.buffer := rfl

@[simp] theorem loadHeader_header (p : LinkLayerParser) :
    p.loadHeader.header = .read p.buffer.readBuffer := rfl

/-- Read the header and check it. -/
def readHeader (p : LinkLayerParser) : LinkLayerParser × Bool :=
  let p := p.loadHeader
  if CRC.isCorrectCRC p.buffer.readBuffer 8 then
    let (p, valid) := p.validateHeaderParameters
    if valid then (p, true) else (p.countBadFrame, false)
  else (p.countCrcError, false)

/-- The checksums of the user data are right, or one is counted as wrong. -/
def validateBody (p : LinkLayerParser) : LinkLayerParser × Bool :=
  let len := p.header.length.toNat - LPDU_MIN_LENGTH
  if LinkFrame.validateBodyCRC (p.buffer.readBuffer.drop LPDU_HEADER_SIZE) len then (p, true)
  else (p.countCrcError, false)

/-- Move the user data to the front of the receive memory. -/
def transferUserData (p : LinkLayerParser) : LinkLayerParser :=
  let len := p.header.length.toNat - LPDU_MIN_LENGTH
  { p with
    buffer.pBuffer := LinkFrame.readUserData p.buffer.pBuffer
      (p.buffer.readPos + LPDU_HEADER_SIZE) 0 len
    userDataLen := len }

/-- Give a frame up: the reader advances by one byte. -/
def failFrame (p : LinkLayerParser) : LinkLayerParser :=
  { p with buffer := p.buffer.advanceRead 1 }

/-- Look for the two octets that a frame begins with. -/
def parseSync (p : LinkLayerParser) : LinkLayerParser × State :=
  if 10 ≤ p.buffer.numBytesRead then
    let (buffer, found) := p.buffer.sync
    ({ p with buffer := buffer }, if found then .readHeader else .findSync)
  else (p, .findSync)

/-- Check a header that is there; what fails is skipped. -/
def parseHeader (p : LinkLayerParser) : LinkLayerParser × State :=
  if 10 ≤ p.buffer.numBytesRead then
    let (p, valid) := p.readHeader
    if valid then (p, .readBody) else (p.failFrame, .findSync)
  else (p, .readHeader)

/-- Check a body that is there; what fails is skipped. -/
def parseBody (p : LinkLayerParser) : LinkLayerParser × State :=
  if p.buffer.numBytesRead < p.frameSize then (p, .readBody)
  else
    let (p, valid) := p.validateBody
    if valid then (p.transferUserData, .complete) else (p.failFrame, .findSync)

/-- What is done next in the state the parser is in. -/
def parseOneStep (p : LinkLayerParser) : LinkLayerParser × State :=
  match p.state with
  | .findSync => p.parseSync
  | .readHeader => p.parseHeader
  | .readBody => p.parseBody
  | .complete => (p, .complete)

/-- Step as long as the state changes. -/
def parseUntilComplete : Nat → LinkLayerParser → LinkLayerParser
  | 0, p => p
  | fuel + 1, p =>
    let lastState := p.state
    let (p, state) := p.parseOneStep
    let p := p.setState state
    if state = lastState then p else parseUntilComplete fuel p

/-- Hand the frame to the sink and advance behind it. -/
def pushFrame (p : LinkLayerParser) : LinkLayerParser × Frame :=
  ({ p with buffer := p.buffer.advanceRead p.frameSize },
    (p.header.fields, p.buffer.pBuffer.take p.userDataLen))

/-- The loop of `onRead`: push frames as long as one is complete. -/
def pushFrames : Nat → LinkLayerParser → LinkLayerParser × List Frame
  | 0, p => (p, [])
  | fuel + 1, p =>
    let p := parseUntilComplete (4 * p.buffer.numBytesRead + 4) p
    if p.state = .complete then
      let (p, frame) := p.countFrame.pushFrame
      let (p, frames) := pushFrames fuel (p.setState .findSync)
      (p, frame :: frames)
    else (p, [])

/-- `numBytes` valid bytes were written to the write slice. -/
def onRead (p : LinkLayerParser) (numBytes : Nat) : LinkLayerParser × List Frame :=
  let p := { p with buffer := p.buffer.advanceWrite numBytes }
  let (p, frames) := pushFrames (p.buffer.numBytesRead + 1) p
  ({ p with buffer := p.buffer.shift }, frames)

/-- A chunk arrives: it is stored in the write slice, then `onRead` is called with its size. -/
def receive (p : LinkLayerParser) (chunk : List UInt8) : LinkLayerParser × List Frame :=
  { p with buffer := p.buffer.store chunk }.onRead chunk.length

end LinkLayerParser
end Link
end Dnp3
