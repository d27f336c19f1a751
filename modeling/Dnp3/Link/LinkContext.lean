import Dnp3.Asiodnp3.LinkLayerRouter

/-!
# The link layer

`LinkContext` is one end of a link.  Its primary station sends the segments of the transport layer
and asks for the status of the link when nothing was heard for a while; its secondary station
answers the primary station of the other end.  The stations share the transmitter, one frame at a
time: a frame that finds it in use stays pending in the buffer it was formatted in.

The functions of the two stations return the next state, as in the source; their callers store it.
What the upper layer does in a callback is chosen by the environment: the messages it sends there
are an argument of the event.

`log` is not in the source.  It remembers what has happened so far, so that statements about whole
runs can be made.
-/

namespace Dnp3
namespace Link

open Asiodnp3 (LinkTransmitMode)

/-! ## Parameters -/

/-- The configuration of a link, times in milliseconds. -/
structure LinkConfig where
  isMaster : Bool
  /-- User data is sent with the request to confirm it. -/
  useConfirms : Bool
  numRetry : UInt32
  localAddr : UInt16
  remoteAddr : UInt16
  timeout : Int
  keepAliveTimeout : Int
  deriving DecidableEq, Repr

/-! ## Segments -/

/-- An `ITransportSegment`: the segment to be sent and those behind it. -/
structure Segments where
  current : UserData
  rest : List UserData

namespace Segments

/-- The segment that is to be sent next. -/
def getSegment (s : Segments) : UserData := s.current

/-- The next segment, and whether there is one. -/
def advance (s : Segments) : Segments × Bool :=
  match s.rest with
  | [] => (s, false)
  | next :: rest => ({ current := next, rest := rest }, true)

/-- All that is still to be sent. -/
def toList (s : Segments) : List UserData := s.current :: s.rest

end Segments

/-! ## The state -/

/-- Whether the other end has acknowledged a reset since the layer was up. -/
inductive LinkStatus where
  | unreset
  | reset
  deriving DecidableEq, Repr

/-- What the primary station waits for: the end of a transmission (`TransmitWait`), or the answer to
it. -/
inductive PriState where
  | idle
  | sendUnconfirmedTransmitWait
  | linkResetTransmitWait
  | confUserDataTransmitWait
  | requestLinkStatusTransmitWait
  | resetLinkWait
  | confDataWait
  | requestLinkStatusWait
  deriving DecidableEq, Repr

/-- Whether the secondary station was reset, and whether it is transmitting. -/
inductive SecState where
  | notReset
  | reset
  | transmitWaitReset
  | transmitWaitNotReset
  deriving DecidableEq, Repr

/-- A callback that was posted to the executor. -/
inductive Posted where
  | onStateChange (status : LinkStatus)
  | onSendResult (success : Bool)
  deriving DecidableEq, Repr

/-- What the link layer does, as its neighbours see it. -/
inductive LinkEntry where
  | up
  | down
  /-- A message of the upper layer is taken, with these segments. -/
  | sending (segments : List UserData)
  /-- A frame is formatted in one of the buffers, `true` for the primary one. -/
  | formatted (primary : Bool) (frame : Format)
  /-- The frame in the buffer has to wait for the transmitter. -/
  | pending (primary : Bool)
  /-- The router is given the frame in the buffer. -/
  | beginTransmit (primary : Bool) (bytes : List UInt8)
  /-- The router reports the result of a transmission. -/
  | transmitResult (primary success : Bool)
  /-- The reset of the other end was acknowledged. -/
  | resetAcknowledged
  /-- The segment was acknowledged. -/
  | acknowledged
  /-- The upper layer is given the data of a frame. -/
  | received (data : List UInt8)
  | posted (callback : Posted)
  /-- A posted callback is run. -/
  | ran (callback : Posted)
  | keepAliveInitiated
  | keepAliveSuccess
  | keepAliveFailure

/-- The link layer, with the buffers of both stations. -/
structure LinkContext where
  config : LinkConfig
  /-- The time of the executor, and the callbacks posted to it. -/
  now : Int
  callbacks : List Posted
  priTxBuffer : List UInt8
  secTxBuffer : List UInt8
  /-- The sizes of the frames that are pending in the buffers. -/
  pendingPriTx : Option Nat
  pendingSecTx : Option Nat
  pSegments : Option Segments
  txMode : LinkTransmitMode
  numRetryRemaining : UInt32
  /-- When the timers expire that are running. -/
  rspTimeoutTimer : Option Int
  keepAliveTimer : Option Int
  nextReadFCB : Bool
  nextWriteFCB : Bool
  isOnline : Bool
  isRemoteReset : Bool
  keepAliveTimeout : Bool
  lastMessageTimestamp : Int
  pPriState : PriState
  pSecState : SecState
  log : List LinkEntry

namespace LinkContext

/-- A layer that is down and has sent nothing. -/
def initial (config : LinkConfig) (now : Int) : LinkContext where
  config := config
  now := now
  callbacks := []
  priTxBuffer := List.replicate LPDU_MAX_FRAME_SIZE 0
  secTxBuffer := List.replicate LPDU_HEADER_SIZE 0
  pendingPriTx := none
  pendingSecTx := none
  pSegments := none
  txMode := .idle
  numRetryRemaining := 0
  rspTimeoutTimer := none
  keepAliveTimer := none
  nextReadFCB := false
  nextWriteFCB := false
  isOnline := false
  isRemoteReset := false
  keepAliveTimeout := false
  lastMessageTimestamp := now
  pPriState := .idle
  pSecState := .notReset
  log := []

/-- Remember what has happened. -/
def note (s : LinkContext) (e : LinkEntry) : LinkContext := { s with log := s.log ++ [e] }

/-- The primary station goes to a state. -/
def setPriState (s : LinkContext) (state : PriState) : LinkContext := { s with pPriState := state }

/-- The secondary station goes to a state. -/
def setSecState (s : LinkContext) (state : SecState) : LinkContext := { s with pSecState := state }

/-- The next confirmed frame has to have its frame count bit set. -/
def resetReadFCB (s : LinkContext) : LinkContext := { s with nextReadFCB := true }

/-- The next confirmed frame goes out with its frame count bit set. -/
def resetWriteFCB (s : LinkContext) : LinkContext := { s with nextWriteFCB := true }

/-- The next confirmed frame is a new one. -/
def toggleReadFCB (s : LinkContext) : LinkContext := { s with nextReadFCB := !s.nextReadFCB }

/-- The frame was acknowledged, and the next one is a new one. -/
def toggleWriteFCB (s : LinkContext) : LinkContext := { s with nextWriteFCB := !s.nextWriteFCB }

/-! ## Frames -/

/-- The buffer of the primary or of the secondary station. -/
def txBuffer (s : LinkContext) (primary : Bool) : List UInt8 :=
  if primary then s.priTxBuffer else s.secTxBuffer

/-- The size of the frame that waits for the transmitter, of the primary or the secondary
station. -/
def pendingTx (s : LinkContext) (primary : Bool) : Option Nat :=
  if primary then s.pendingPriTx else s.pendingSecTx

/-- A frame waits for the transmitter, or none does. -/
def setPendingTx (s : LinkContext) (primary : Bool) (pending : Option Nat) : LinkContext :=
  if primary then { s with pendingPriTx := pending } else { s with pendingSecTx := pending }

/-- A frame is formatted at the front of a buffer; its size is the slice that is returned. -/
def format (s : LinkContext) (primary : Bool) (frame : Format) : LinkContext × Nat :=
  let bytes := frame.bytes
  let s := if primary then { s with priTxBuffer := bytes ++ s.priTxBuffer.drop bytes.length }
    else { s with secTxBuffer := bytes ++ s.secTxBuffer.drop bytes.length }
  (s.note (.formatted primary frame), bytes.length)

/-- The router's `BeginTransmit`, of a slice of a buffer. -/
def beginTransmit (s : LinkContext) (size : Nat) (primary : Bool) : LinkContext :=
  s.note (.beginTransmit primary ((s.txBuffer primary).take size))

/-- Transmit what is in a buffer, at once or when the transmitter is free. -/
def queueTransmit (s : LinkContext) (size : Nat) (primary : Bool) : LinkContext :=
  if s.txMode = .idle then ({ s with txMode := .of primary }).beginTransmit size primary
  else (s.setPendingTx primary (some size)).note (.pending primary)

/-- Transmit what waits for the transmitter, if it is free. -/
def tryPendingTx (s : LinkContext) (primary : Bool) : LinkContext :=
  match s.txMode, s.pendingTx primary with
  | .idle, some size =>
    { (s.beginTransmit size primary).setPendingTx primary none with txMode := .of primary }
  | _, _ => s

/-- Format user data that the other end has to acknowledge. -/
def formatPrimaryBufferWithConfirmed (s : LinkContext) (tpdu : UserData) (FCB : Bool) :
    LinkContext × Nat :=
  s.format true
    (.confirmedUserData s.config.isMaster FCB s.config.remoteAddr s.config.localAddr tpdu)

/-- Format user data that is not acknowledged. -/
def formatPrimaryBufferWithUnconfirmed (s : LinkContext) (tpdu : UserData) : LinkContext × Nat :=
  s.format true (.unconfirmedUserData s.config.isMaster s.config.remoteAddr s.config.localAddr tpdu)

/-- Acknowledge what came in. -/
def queueAck (s : LinkContext) : LinkContext :=
  let (s, buffer) := s.format false
    (.ack s.config.isMaster false s.config.remoteAddr s.config.localAddr)
  s.queueTransmit buffer false

/-- Answer a request for the link status. -/
def queueLinkStatus (s : LinkContext) : LinkContext :=
  let (s, buffer) := s.format false
    (.linkStatus s.config.isMaster false s.config.remoteAddr s.config.localAddr)
  s.queueTransmit buffer false

/-- Ask the other end to reset its secondary station. -/
def queueResetLinks (s : LinkContext) : LinkContext :=
  let (s, buffer) := s.format true
    (.resetLinkStates s.config.isMaster s.config.remoteAddr s.config.localAddr)
  s.queueTransmit buffer true

/-- Ask the other end for the link status. -/
def queueRequestLinkStatus (s : LinkContext) : LinkContext :=
  let (s, buffer) := s.format true
    (.requestLinkStatus s.config.isMaster s.config.remoteAddr s.config.localAddr)
  s.queueTransmit buffer true

/-- A segment is formatted and queued as confirmed user data. -/
def queueConfirmed (s : LinkContext) (tpdu : UserData) : LinkContext :=
  let (s, buffer) := s.formatPrimaryBufferWithConfirmed tpdu s.nextWriteFCB
  s.queueTransmit buffer true

/-- A segment is formatted and queued as unconfirmed user data. -/
def queueUnconfirmed (s : LinkContext) (tpdu : UserData) : LinkContext :=
  let (s, buffer) := s.formatPrimaryBufferWithUnconfirmed tpdu
  s.queueTransmit buffer true

/-! ## Callbacks and timers -/

/-- All retries are left. -/
def resetRetry (s : LinkContext) : LinkContext :=
  { s with numRetryRemaining := s.config.numRetry }

/-- One more try, if any remains. -/
def retry (s : LinkContext) : LinkContext × Bool :=
  if 0 < s.numRetryRemaining then
    ({ s with numRetryRemaining := s.numRetryRemaining - 1 }, true)
  else (s, false)

/-- A callback is posted to the executor. -/
def post (s : LinkContext) (callback : Posted) : LinkContext :=
  ({ s with callbacks := s.callbacks ++ [callback] }).note (.posted callback)

/-- The listener is told of the link status. -/
def postStatusCallback (s : LinkContext) (status : LinkStatus) : LinkContext :=
  s.post (.onStateChange status)

/-- The message is done with, and the upper layer is told so. -/
def completeSendOperation (s : LinkContext) (success : Bool) : LinkContext :=
  ({ s with pSegments := none }).post (.onSendResult success)

/-- `TimerRef::Start`: a running timer stays as it is. -/
def startResponseTimer (s : LinkContext) : LinkContext :=
  { s with rspTimeoutTimer := some (s.rspTimeoutTimer.getD (s.now + s.config.timeout)) }

/-- The timer is started, unless it is running. -/
def startKeepAliveTimer (s : LinkContext) : LinkContext :=
  { s with keepAliveTimer := some (s.keepAliveTimer.getD (s.now + s.config.keepAliveTimeout)) }

/-- No answer is waited for any longer. -/
def cancelTimer (s : LinkContext) : LinkContext := { s with rspTimeoutTimer := none }

/-- The listener is told that the other end is silent, if a timeout says so. -/
def failKeepAlive (s : LinkContext) (timeout : Bool) : LinkContext :=
  if timeout then s.note .keepAliveFailure else s

/-- The listener is told that the other end is there. -/
def completeKeepAlive (s : LinkContext) : LinkContext := s.note .keepAliveSuccess

/-! ## The primary station -/

/-- The segment that is being sent.  The states that send have one. -/
def withSegments (s : LinkContext) (f : Segments → LinkContext × PriState) :
    LinkContext × PriState :=
  match s.pSegments with
  | some segments => f segments
  | none => (s, s.pPriState)

/-- A message is being sent. -/
def setSegments (s : LinkContext) (segments : Segments) : LinkContext :=
  { s with pSegments := some segments }

/-- Send a segment that is not acknowledged, if the primary station is idle. -/
def trySendUnconfirmed (s : LinkContext) (segments : Segments) : LinkContext × PriState :=
  match s.pPriState with
  | .idle => (s.queueUnconfirmed segments.getSegment, .sendUnconfirmedTransmitWait)
  | state => (s, state)

/-- Send a segment that is acknowledged, or first reset the other end, if the primary station is
idle. -/
def trySendConfirmed (s : LinkContext) (segments : Segments) : LinkContext × PriState :=
  match s.pPriState with
  | .idle =>
    if s.isRemoteReset then
      (s.resetRetry.queueConfirmed segments.getSegment, .confUserDataTransmitWait)
    else (s.resetRetry.queueResetLinks, .linkResetTransmitWait)
  | state => (s, state)

/-- Ask for the link status, if the primary station is idle. -/
def trySendRequestLinkStatus (s : LinkContext) : LinkContext × PriState :=
  match s.pPriState with
  | .idle =>
    (({ s with keepAliveTimeout := false }).queueRequestLinkStatus.note .keepAliveInitiated,
      .requestLinkStatusTransmitWait)
  | state => (s, state)

/-- `OnTransmitResult` of the primary station. -/
def onPriTransmitResult (s : LinkContext) (success : Bool) : LinkContext × PriState :=
  match s.pPriState with
  | .sendUnconfirmedTransmitWait => s.withSegments fun segments =>
    match segments.advance with
    | (segments, true) =>
      ((s.setSegments segments).queueUnconfirmed segments.getSegment, .sendUnconfirmedTransmitWait)
    | (_, false) => (s.completeSendOperation success, .idle)
  | .linkResetTransmitWait =>
    if success then (s.startResponseTimer, .resetLinkWait)
    else (s.completeSendOperation success, .idle)
  | .confUserDataTransmitWait =>
    if success then (s.startResponseTimer, .confDataWait)
    else (s.completeSendOperation false, .idle)
  | .requestLinkStatusTransmitWait =>
    if success then (s.startResponseTimer, .requestLinkStatusWait)
    else (s.failKeepAlive false, .idle)
  | state => (s, state)

/-- `Failure` of the states that wait for a reply to a reset or to user data. -/
def failure (s : LinkContext) : LinkContext × PriState :=
  (s.cancelTimer.completeSendOperation false, .idle)

/-- The other end was reset, or has got the segment; what is left of the message follows. -/
def onAck (s : LinkContext) : LinkContext × PriState :=
  match s.pPriState with
  | .resetLinkWait => s.withSegments fun segments =>
    let s := ({ s.note .resetAcknowledged with isRemoteReset := true }).resetWriteFCB.cancelTimer
    ((s.queueConfirmed segments.getSegment).postStatusCallback .reset, .confUserDataTransmitWait)
  | .confDataWait => s.withSegments fun segments =>
    let s := (s.note .acknowledged).toggleWriteFCB.cancelTimer
    match segments.advance with
    | (segments, true) =>
      ((s.setSegments segments).queueConfirmed segments.getSegment, .confUserDataTransmitWait)
    | (_, false) => (s.completeSendOperation true, .idle)
  | state => (s, state)

/-- The other end has not got the segment: it has to be reset, or has no room. -/
def onNack (s : LinkContext) (receiveBuffFull : Bool) : LinkContext × PriState :=
  match s.pPriState with
  | .resetLinkWait => s.failure
  | .confDataWait =>
    let s := s.postStatusCallback .unreset
    if receiveBuffFull then s.failure
    else (s.resetRetry.cancelTimer.queueResetLinks, .linkResetTransmitWait)
  | .requestLinkStatusWait => (s.cancelTimer.failKeepAlive false, .idle)
  | state => (s, state)

/-- The other end is there; who waits for an acknowledgement has failed. -/
def onLinkStatus (s : LinkContext) : LinkContext × PriState :=
  match s.pPriState with
  | .resetLinkWait => s.failure
  | .confDataWait => s.failure
  | .requestLinkStatusWait => (s.cancelTimer.completeKeepAlive, .idle)
  | state => (s, state)

/-- The other end does not know what it was asked; whatever waits has failed. -/
def onNotSupported (s : LinkContext) : LinkContext × PriState :=
  match s.pPriState with
  | .resetLinkWait => s.failure
  | .confDataWait => s.failure
  | .requestLinkStatusWait => (s.cancelTimer.failKeepAlive false, .idle)
  | state => (s, state)

/-- `OnTimeout` of the primary station. -/
def onTimeout (s : LinkContext) : LinkContext × PriState :=
  match s.pPriState with
  | .resetLinkWait =>
    match s.retry with
    | (s, true) => (s.queueResetLinks, .linkResetTransmitWait)
    | (s, false) => (s.completeSendOperation false, .idle)
  | .confDataWait =>
    match s.retry with
    | (s, true) => s.withSegments fun segments =>
      (s.queueConfirmed segments.getSegment, .confUserDataTransmitWait)
    | (s, false) => ((s.postStatusCallback .unreset).completeSendOperation false, .idle)
  | .requestLinkStatusWait => (s.failKeepAlive true, .idle)
  | state => (s, state)

/-- Store what a function of the primary station returns. -/
def storePri (r : LinkContext × PriState) : LinkContext := r.1.setPriState r.2

/-! ## Sending -/

/-- A message is taken when the layer is up and sends no other one. -/
def setTxSegment (s : LinkContext) (segments : Segments) : LinkContext × Bool :=
  if !s.isOnline then (s, false)
  else if s.pSegments.isSome then (s, false)
  else ((s.setSegments segments).note (.sending segments.toList), true)

/-- A keep-alive goes first, then the message. -/
def tryStartTransmission (s : LinkContext) : LinkContext :=
  let s := if s.keepAliveTimeout then storePri s.trySendRequestLinkStatus else s
  match s.pSegments with
  | none => s
  | some segments =>
    if s.config.useConfirms then storePri (s.trySendConfirmed segments)
    else storePri (s.trySendUnconfirmed segments)

/-- `Send` of the link layer. -/
def send (s : LinkContext) (segments : Segments) : LinkContext :=
  match s.setTxSegment segments with
  | (s, true) => s.tryStartTransmission
  | (s, false) => s

/-! ## The secondary station -/

/-- `OnTransmitResult` of the secondary station. -/
def onSecTransmitResult (s : LinkContext) : LinkContext × SecState :=
  match s.pSecState with
  | .transmitWaitReset => (s, .reset)
  | .transmitWaitNotReset => (s, .notReset)
  | state => (s, state)

/-- The upper layer is given some data, and may send messages while it takes it. -/
def pushDataUp (s : LinkContext) (data : List UInt8) (sends : List Segments) : LinkContext :=
  sends.foldl send (s.note (.received data))

/-- A test is acknowledged like a confirmed frame. -/
def onTestLinkStatus (s : LinkContext) (fcb : Bool) : LinkContext × SecState :=
  match s.pSecState with
  | .reset =>
    if s.nextReadFCB = fcb then (s.queueAck.toggleReadFCB, .transmitWaitReset) else (s, .reset)
  | state => (s, state)

/-- The secondary station is reset, and says so. -/
def onResetLinkStates (s : LinkContext) : LinkContext × SecState :=
  match s.pSecState with
  | .notReset => (s.queueAck.resetReadFCB, .transmitWaitReset)
  | .reset => (s.queueAck.resetReadFCB, .transmitWaitReset)
  | state => (s, state)

/-- The request is answered, whether the station was reset or not. -/
def onRequestLinkStatus (s : LinkContext) : LinkContext × SecState :=
  match s.pSecState with
  | .notReset => (s.queueLinkStatus, .transmitWaitNotReset)
  | .reset => (s.queueLinkStatus, .transmitWaitReset)
  | state => (s, state)

/-- A frame with the bit that is waited for is passed on; one that was acknowledged before is
acknowledged again. -/
def onConfirmedUserData (s : LinkContext) (fcb : Bool) (data : List UInt8) (sends : List Segments) :
    LinkContext × SecState :=
  match s.pSecState with
  | .reset =>
    let s := s.queueAck
    if s.nextReadFCB = fcb then (s.toggleReadFCB.pushDataUp data sends, .transmitWaitReset)
    else (s, .transmitWaitReset)
  | state => (s, state)

/-- Store what a function of the secondary station returns. -/
def storeSec (r : LinkContext × SecState) : LinkContext := r.1.setSecState r.2

/-! ## Events -/

/-- The frame comes from the other end of this link. -/
def validate (s : LinkContext) (isMaster : Bool) (src dest : UInt16) : Bool :=
  if isMaster = s.config.isMaster then false
  else if dest ≠ s.config.localAddr then false
  else if src ≠ s.config.remoteAddr then false
  else true

/-- What a valid frame does, and whether its function is known. -/
def handleFrame (s : LinkContext) (header : LinkHeaderFields) (userdata : List UInt8)
    (sends : List Segments) : LinkContext × Bool :=
  match header.func with
  | .secAck => (storePri s.onAck, true)
  | .secNack => (storePri (s.onNack header.fcvdfc), true)
  | .secLinkStatus => (storePri s.onLinkStatus, true)
  | .secNotSupported => (storePri s.onNotSupported, true)
  | .priTestLinkStates => (storeSec (s.onTestLinkStatus header.fcb), true)
  | .priResetLinkStates => (storeSec s.onResetLinkStates, true)
  | .priRequestLinkStatus => (storeSec s.onRequestLinkStatus, true)
  | .priConfirmedUserData => (storeSec (s.onConfirmedUserData header.fcb userdata sends), true)
  | .priUnconfirmedUserData => (s.pushDataUp userdata sends, true)
  | .invalid => (s, false)

/-- `OnFrame` of the context. -/
def onFrameContext (s : LinkContext) (header : LinkHeaderFields) (userdata : List UInt8)
    (sends : List Segments) : LinkContext × Bool :=
  if !s.isOnline then (s, false)
  else if !s.validate header.isFromMaster header.src header.dest then (s, false)
  else ({ s with lastMessageTimestamp := s.now }).handleFrame header userdata sends

/-- `OnFrame` of the link layer. -/
def onFrame (s : LinkContext) (header : LinkHeaderFields) (userdata : List UInt8)
    (sends : List Segments) : LinkContext :=
  match s.onFrameContext header userdata sends with
  | (s, true) => s.tryStartTransmission
  | (s, false) => s

/-- `OnTransmitResult` of the context; pending frames have access before the station goes on. -/
def onTransmitResultContext (s : LinkContext) (success : Bool) : LinkContext × Bool :=
  match s.txMode with
  | .idle => (s, false)
  | .primary =>
    let s := ({ s with txMode := .idle }).note (.transmitResult true success)
    (storePri (((s.tryPendingTx false).tryPendingTx true).onPriTransmitResult success), true)
  | .secondary =>
    let s := ({ s with txMode := .idle }).note (.transmitResult false success)
    (storeSec ((s.tryPendingTx false).tryPendingTx true).onSecTransmitResult, true)

/-- `OnTransmitResult` of the link layer. -/
def onTransmitResult (s : LinkContext) (success : Bool) : LinkContext :=
  match s.onTransmitResultContext success with
  | (s, true) => s.tryStartTransmission
  | (s, false) => s

/-- The layer is up, and so is the one above it, which may send at once. -/
def onLowerLayerUp (s : LinkContext) (sends : List Segments) : LinkContext :=
  if s.isOnline then s
  else
    let s := ({ s with isOnline := true, lastMessageTimestamp := s.now }).note .up
    sends.foldl send (s.startKeepAliveTimer.postStatusCallback .unreset)

/-- Everything that was begun is forgotten. -/
def onLowerLayerDown (s : LinkContext) : LinkContext :=
  if s.isOnline then
    (({ s with
      isOnline := false
      keepAliveTimeout := false
      isRemoteReset := false
      pSegments := none
      txMode := .idle
      pendingPriTx := none
      pendingSecTx := none
      rspTimeoutTimer := none
      keepAliveTimer := none
      pPriState := .idle
      pSecState := .notReset }).note .down).postStatusCallback .unreset
  else s

/-- The response timer expires. -/
def onResponseTimeout (s : LinkContext) : LinkContext :=
  (storePri ({ s with rspTimeoutTimer := none }).onTimeout).tryStartTransmission

/-- The keep-alive timer expires.  The timer is started with its usual duration. -/
def onKeepAliveTimeout (s : LinkContext) : LinkContext :=
  let s := { s with keepAliveTimer := none }
  let s :=
    if s.config.keepAliveTimeout ≤ s.now - s.lastMessageTimestamp then
      { s with lastMessageTimestamp := s.now, keepAliveTimeout := true }
    else s
  s.startKeepAliveTimer.tryStartTransmission

/-- A timer that is running may expire. -/
def isDue (s : LinkContext) (timer : Option Int) : Bool :=
  timer.any fun expiration => expiration ≤ s.now

/-- The executor runs the callback that was posted first; the upper layer may send messages. -/
def runPosted (s : LinkContext) (sends : List Segments) : LinkContext :=
  match s.callbacks with
  | [] => s
  | .onStateChange status :: rest =>
    ({ s with callbacks := rest }).note (.ran (.onStateChange status))
  | .onSendResult success :: rest =>
    sends.foldl send (({ s with callbacks := rest }).note (.ran (.onSendResult success)))

/-- What can happen to a link. -/
inductive Event where
  | lowerLayerUp (sends : List Segments)
  | lowerLayerDown
  | send (segments : Segments)
  | frame (header : LinkHeaderFields) (userdata : List UInt8) (sends : List Segments)
  | transmitResult (success : Bool)
  | responseTimeout
  | keepAliveTimeout
  | runPosted (sends : List Segments)
  /-- Time passes. -/
  | elapse (milliseconds : Nat)

/-- An event takes place. -/
def step (s : LinkContext) : Event → LinkContext
  | .lowerLayerUp sends => s.onLowerLayerUp sends
  | .lowerLayerDown => s.onLowerLayerDown
  | .send segments => s.send segments
  | .frame header userdata sends => s.onFrame header userdata sends
  | .transmitResult success => s.onTransmitResult success
  | .responseTimeout => if s.isDue s.rspTimeoutTimer then s.onResponseTimeout else s
  | .keepAliveTimeout => if s.isDue s.keepAliveTimer then s.onKeepAliveTimeout else s
  | .runPosted sends => s.runPosted sends
  | .elapse milliseconds => { s with now := s.now + milliseconds }

end LinkContext
end Link
end Dnp3
