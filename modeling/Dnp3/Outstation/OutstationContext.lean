import Dnp3.Outstation.OutstationState

/-!
# The outstation

The functions of `OContext`.  A request is processed at once, unless a response is still being
transmitted; then it is deferred and taken up when the transmission is over.  A response to a READ
may take several fragments, each of which but the last one has to be confirmed before the next one
is sent, and fragments with events have to be confirmed too.  Whenever nothing is being transmitted,
a deferred request is taken up first, and then events are reported unsolicited.

The functions of the two state machines return the next state, as in the source; their callers
store it.
-/

namespace Dnp3
namespace Outstation

open App Link

/-- The records that were written by a load. -/
def newlyWritten (before after : EventBuffer) : List Nat :=
  ((before.records.zip after.records).filter fun p => !p.1.written && p.2.written).map
    fun p => p.1.id

/-- The records that are gone. -/
def removedIds (before after : EventBuffer) : List Nat :=
  (before.records.map SOERecord.id).filter fun id => !(after.records.map SOERecord.id).contains id

namespace OContext

variable {W : Type} (cb : Callbacks W)

/-! ## Transmission -/

/-- The layer below is up, and no result is waited for. -/
def canTransmit (s : OContext W) : Bool := s.isOnline && !s.isTransmitting

/-- A fragment is given to the layer below, whose result is waited for from now on. -/
def beginTx (s : OContext W) : OContext W := { s with isTransmitting := true }

/-- A response is recorded, in case the request is repeated, and transmitted. -/
def beginResponseTx (s : OContext W) (response : APDUResponse) : OContext W :=
  ({ s with sol := { s.sol with tx := s.sol.tx.record response } }).beginTx

/-- An unsolicited response is recorded and transmitted; a confirm has to have its number. -/
def beginUnsolTx (s : OContext W) (response : APDUResponse) : OContext W :=
  let seq := s.unsol.seq
  ({ s with
    unsol := { s.unsol with
      tx := s.unsol.tx.record response
      seq := { confirmNum := seq.num, num := seq.num + 1 } } }).beginTx

/-! ## The confirm timer -/

/-- `TimerRef::Start`: a running timer stays as it is. -/
def startConfirmTimer (s : OContext W) (timeout : Int) (action : ConfirmAction) : OContext W :=
  match s.confirmTimer with
  | some _ => s
  | none => { s with confirmTimer := some { timeout := timeout, action := action } }

/-- The timeout of unsolicited responses is used here too. -/
def startSolicitedConfirmTimer (s : OContext W) : OContext W :=
  s.startConfirmTimer s.params.unsolConfirmTimeout .solicited

/-- The confirm of an unsolicited response is waited for. -/
def startUnsolicitedConfirmTimer (s : OContext W) : OContext W :=
  s.startConfirmTimer s.params.unsolConfirmTimeout .unsolicited

/-- No confirm is waited for any longer. -/
def cancelConfirmTimer (s : OContext W) : OContext W := { s with confirmTimer := none }

/-! ## Indications -/

/-- The overflow flag of the buffer may be cleared. -/
def getDynamicIIN (s : OContext W) : OContext W × IINField :=
  let classField := s.eventBuffer.unwrittenClassField
  let ret := ((IINField.empty.setBitToValue .class1Events classField.hasClass1).setBitToValue
    .class2Events classField.hasClass2).setBitToValue .class3Events classField.hasClass3
  let (eventBuffer, overflown) := s.eventBuffer.isOverflown
  ({ s with eventBuffer := eventBuffer }, ret.setBitToValue .eventBufferOverflow overflown)

/-- The indications of a response: those that stay, those of the buffers, and those of the
application. -/
def getResponseIIN (s : OContext W) : OContext W × IINField :=
  let (s, dynamicIIN) := s.getDynamicIIN
  (s, (s.staticIIN.or dynamicIIN).or (cb.getApplicationIIN s.world).toIIN)

/-! ## Function handlers -/

/-- The indications of a request whose objects were parsed with this result. -/
def requestIIN (result : ParseResult) (errors : IINField) : IINField :=
  if result = .ok then errors else iinFromParseResult result

/-- The restart indication may be cleared, and times set. -/
def handleWrite (s : OContext W) (objects : List UInt8) : OContext W × IINField :=
  let (result, headers) := APDUParser.parse objects true WriteHandler.isAllowed
  let handler := APDUHandler.onHeaders (WriteHandler.processHeader cb)
    (.initial s.world s.staticIIN) headers
  ({ s with world := handler.state.world, staticIIN := handler.state.writeIIN },
    requestIIN result handler.errors)

/-- The commands of a request, handled one after the other. -/
def processCommands (s : OContext W) (action : CommandAction) (objects : List UInt8)
    (writer : Option HeaderWriter) : ParseResult × APDUHandler (CommandResponseHandler W) :=
  let (result, headers) := APDUParser.parse objects true CommandResponseHandler.isAllowed
  (result, APDUHandler.onHeaders
    (CommandResponseHandler.processHeader cb action s.params.maxControlsPerRequest)
    (.initial s.world writer) headers)

/-- The commands are echoed, so there has to be room for them. -/
def handleDirectOperate (s : OContext W) (objects : List UInt8) (writer : Option HeaderWriter) :
    OContext W × Option HeaderWriter × IINField :=
  if writer.any fun w => w.remaining < objects.length then (s, writer, .ofBit .paramError)
  else
    let (result, handler) := s.processCommands cb .operate objects writer
    ({ s with world := handler.state.stop cb }, handler.state.writer,
      requestIIN result handler.errors)

/-- Commands are selected for the next request, if all of them succeed. -/
def handleSelect (s : OContext W) (objects : List UInt8) (writer : HeaderWriter) :
    OContext W × Option HeaderWriter × IINField :=
  if writer.remaining < objects.length then (s, some writer, .ofBit .paramError)
  else
    let (result, handler) := s.processCommands cb .select objects (some writer)
    let s' := { s with world := handler.state.stop cb }
    if result = .ok ∧ handler.state.allCommandsSuccessful then
      (({ s' with control := s'.control.select s'.sol.seq.num s'.now objects }).note
          (.selected s'.sol.seq.num s'.now objects handler.state.statuses),
        handler.state.writer, requestIIN result handler.errors)
    else (s', handler.state.writer, requestIIN result handler.errors)

/-- The errors of the handler are not looked at. -/
def handleCommandWithConstant (s : OContext W) (objects : List UInt8) (writer : HeaderWriter)
    (status : CommandStatus) : OContext W × Option HeaderWriter × IINField :=
  let (result, handler) := s.processCommands cb (.constant status) objects (some writer)
  (s, handler.state.writer, iinFromParseResult result)

/-- Commands are operated if they were selected by the request before, and in time. -/
def handleOperate (s : OContext W) (objects : List UInt8) (writer : HeaderWriter) :
    OContext W × Option HeaderWriter × IINField :=
  if writer.remaining < objects.length then (s, some writer, .ofBit .paramError)
  else
    let result := s.control.validateSelection s.sol.seq.num s.now s.params.selectTimeout objects
    if result = .success then
      let (result, handler) := s.processCommands cb .operate objects (some writer)
      (({ s with world := handler.state.stop cb }).note (.operated s.sol.seq.num s.now objects),
        handler.state.writer, requestIIN result handler.errors)
    else s.handleCommandWithConstant cb objects writer result

/-- The outstation answers at once, so the delay is 0. -/
def handleDelayMeasure (objects : List UInt8) (writer : HeaderWriter) : HeaderWriter × IINField :=
  if objects.isEmpty then ((writer.writeSingleValue .uint8 .uint8Cnt group52Var2 0).1, .empty)
  else (writer, .ofBit .paramError)

/-- The application restarts, and says how long it needs. -/
def handleRestart (s : OContext W) (objects : List UInt8) (isWarmRestart : Bool)
    (writer : HeaderWriter) : OContext W × HeaderWriter × IINField :=
  if objects.isEmpty then
    let mode := if isWarmRestart then cb.warmRestartSupport s.world
      else cb.coldRestartSupport s.world
    let (world, delay) := if isWarmRestart then cb.warmRestart s.world else cb.coldRestart s.world
    match mode with
    | .unsupported => (s, writer, .ofBit .funcNotSupported)
    | .supportedDelayCoarse =>
      ({ s with world := world },
        (writer.writeSingleValue .uint8 .uint8Cnt group52Var1 delay).1, .empty)
    | .supportedDelayFine =>
      ({ s with world := world },
        (writer.writeSingleValue .uint8 .uint8Cnt group52Var2 delay).1, .empty)
  else (s, writer, .ofBit .paramError)

/-- Points are assigned to classes, and the application is told of each range. -/
def handleAssignClass (s : OContext W) (objects : List UInt8) : OContext W × IINField :=
  if cb.supportsAssignClass s.world then
    let (handler, iin) := AssignClassHandler.handleAssignClass s.database objects
    ({ s with
      database := handler.database
      log := s.log ++ handler.posted.map Effect.classAssigned }, iin)
  else (s, .ofBit .funcNotSupported)

/-- The classes named by a request. -/
def parseClasses (objects : List UInt8) : ParseResult × APDUHandler ClassField :=
  let (result, headers) := APDUParser.parse objects true ClassBasedRequestHandler.isAllowed
  (result, APDUHandler.onHeaders ClassBasedRequestHandler.processHeader ClassField.none headers)

/-- The classes that are reported. -/
def setUnsolClassMask (s : OContext W) (mask : ClassField) : OContext W :=
  { s with params := { s.params with unsolClassMask := mask } }

/-- Some classes are not reported any longer. -/
def handleDisableUnsolicited (s : OContext W) (objects : List UInt8) : OContext W × IINField :=
  let (result, handler) := parseClasses objects
  if result = .ok then
    (s.setUnsolClassMask (s.params.unsolClassMask.clear handler.state), handler.errors)
  else (s, iinFromParseResult result)

/-- Some classes are reported from now on. -/
def handleEnableUnsolicited (s : OContext W) (objects : List UInt8) : OContext W × IINField :=
  let (result, handler) := parseClasses objects
  if result = .ok then
    (s.setUnsolClassMask (s.params.unsolClassMask.set handler.state), handler.errors)
  else (s, iinFromParseResult result)

/-- What a request that is no READ asks for, by its function. -/
def handleNonReadResponse (s : OContext W) (header : APDUHeader) (objects : List UInt8)
    (writer : HeaderWriter) : OContext W × HeaderWriter × IINField :=
  match header.function with
  | .write =>
    let (s, iin) := s.handleWrite cb objects
    (s, writer, iin)
  | .select =>
    let (s, writer', iin) := s.handleSelect cb objects writer
    (s, writer'.getD writer, iin)
  | .operate =>
    let (s, writer', iin) := s.handleOperate cb objects writer
    (s, writer'.getD writer, iin)
  | .directOperate =>
    let (s, writer', iin) := s.handleDirectOperate cb objects (some writer)
    (s, writer'.getD writer, iin)
  | .coldRestart => s.handleRestart cb objects false writer
  | .warmRestart => s.handleRestart cb objects true writer
  | .assignClass =>
    let (s, iin) := s.handleAssignClass cb objects
    (s, writer, iin)
  | .delayMeasure =>
    let (writer, iin) := handleDelayMeasure objects writer
    (s, writer, iin)
  | .disableUnsolicited =>
    if s.params.allowUnsolicited then
      let (s, iin) := s.handleDisableUnsolicited objects
      (s, writer, iin)
    else (s, writer, .ofBit .funcNotSupported)
  | .enableUnsolicited =>
    if s.params.allowUnsolicited then
      let (s, iin) := s.handleEnableUnsolicited objects
      (s, writer, iin)
    else (s, writer, .ofBit .funcNotSupported)
  | _ => (s, writer, .ofBit .funcNotSupported)

/-- Requests without a response. -/
def processRequestNoAck (s : OContext W) (header : APDUHeader) (objects : List UInt8) :
    OContext W :=
  match header.function with
  | .directOperateNr => (s.handleDirectOperate cb objects none).1
  | _ => s

/-! ## Responses to a READ -/

/-- `HasSelection` of the response context. -/
def hasSelection (s : OContext W) : Bool :=
  s.database.hasAnySelection || s.eventBuffer.hasAnySelection

/-- `LoadResponse` of the response context, which loads events first and then static data; the
records that were written come with it. -/
def loadResponse (s : OContext W) (writer : HeaderWriter) :
    OContext W × HeaderWriter × AppControlField × List Nat :=
  let fir := s.fragmentCount == 0
  let (eventBuffer, eventWriter, notFull) := s.eventBuffer.load writer
  let someEventsWritten := decide (eventWriter.remaining < writer.remaining)
  let events := newlyWritten s.eventBuffer eventBuffer
  let s := { s with fragmentCount := s.fragmentCount + 1, eventBuffer := eventBuffer }
  if notFull then
    let (database, staticWriter, fin) := s.database.load eventWriter
    ({ s with database := database }, staticWriter,
      { FIR := fir, FIN := fin, CON := !fin || someEventsWritten, UNS := false, SEQ := 0 }, events)
  else
    (s, eventWriter, { FIR := fir, FIN := false, CON := true, UNS := false, SEQ := 0 }, events)

/-- Nothing is selected, and the next fragment is the first one. -/
def resetRead (s : OContext W) : OContext W :=
  { s with
    fragmentCount := 0
    eventBuffer := s.eventBuffer.unselect
    database := s.database.unselect }

/-- What a READ of some headers selects. -/
def selectHeaders (s : OContext W) (headers : List ObjectHeader) : OContext W × IINField :=
  let handler := APDUHandler.onHeaders ReadHandler.processHeader ⟨s.database, s.eventBuffer⟩ headers
  ({ s with database := handler.state.database, eventBuffer := handler.state.eventBuffer },
    handler.errors)

/-- Forget what was selected before, select what is asked for, and load as much as fits. -/
def handleRead (s : OContext W) (objects : List UInt8) (writer : HeaderWriter) :
    OContext W × HeaderWriter × IINField × AppControlField × List Nat :=
  let s := s.resetRead
  let (result, headers) := APDUParser.parse objects false ReadHandler.isAllowed
  let (s, errors) := s.selectHeaders headers
  if result = .ok then
    let (s, writer, control, events) := s.loadResponse writer
    (s, writer, errors, control, events)
  else
    ({ s with fragmentCount := 0 }, writer, iinFromParseResult result, .request 0, [])

/-- The state after a fragment of a READ was sent. -/
def awaitConfirm (s : OContext W) (control : AppControlField) : OContext W × SolicitedState :=
  if control.CON then (s.startSolicitedConfirmTimer, .confirmWait) else (s, .idle)

/-- The number that a confirm has to have. -/
def setConfirmNum (s : OContext W) (seq : AppSeqNum) : OContext W :=
  { s with sol := { s.sol with seq := { s.sol.seq with confirmNum := seq } } }

/-- The first fragment of a response, with what is left for the next ones. -/
def respondToReadRequest (s : OContext W) (header : APDUHeader) (objects : List UInt8) :
    OContext W × SolicitedState :=
  let s := { s with history := s.history.recordLastProcessedRequest header objects }
  let response := s.sol.tx.start.setFunction .response
  let (s, writer, iin, control, events) := s.handleRead objects response.getWriter
  let control := { control with SEQ := header.control.SEQ }
  let s := s.setConfirmNum header.control.SEQ
  let response := (response.withWriter writer).setControl control
  let (s, responseIIN) := s.getResponseIIN cb
  let response := response.setIIN (iin.or responseIIN)
  let s := (s.beginResponseTx response).note
    (.responded header objects { control := control, events := events, bytes := response.toRSlice })
  s.awaitConfirm control

/-- The next fragment of a response, when the one before was confirmed. -/
def continueMultiFragResponse (s : OContext W) (seq : AppSeqNum) : OContext W × SolicitedState :=
  let response := s.sol.tx.start.setFunction .response
  let (s, writer, control, events) := s.loadResponse response.getWriter
  let control := { control with SEQ := seq }
  let s := s.setConfirmNum seq
  let response := (response.withWriter writer).setControl control
  let (s, responseIIN) := s.getResponseIIN cb
  let response := response.setIIN responseIIN
  let s := (s.beginResponseTx response).note
    (.continued { control := control, events := events, bytes := response.toRSlice })
  s.awaitConfirm control

/-! ## Solicited responses -/

/-- The response to a request that is no READ has a single fragment. -/
def respondToNonReadRequest (s : OContext W) (header : APDUHeader) (objects : List UInt8) :
    OContext W × SolicitedState :=
  let s := { s with history := s.history.recordLastProcessedRequest header objects }
  let control := AppControlField.request header.control.SEQ
  let response := (s.sol.tx.start.setFunction .response).setControl control
  let (s, writer, iin) := s.handleNonReadResponse cb header objects response.getWriter
  let (s, responseIIN) := s.getResponseIIN cb
  let response := (response.withWriter writer).setIIN (iin.or responseIIN)
  ((s.beginResponseTx response).note
    (.responded header objects { control := control, events := [], bytes := response.toRSlice }),
    .idle)

/-- A request is kept for later; one that was kept before is lost. -/
def defer (s : OContext W) (header : APDUHeader) (objects : List UInt8) : OContext W :=
  { s with deferred := s.deferred.set header objects }

/-- `OnNewReadRequest` of the solicited state. -/
def onNewReadRequest (s : OContext W) (header : APDUHeader) (objects : List UInt8) :
    OContext W × SolicitedState :=
  match s.sol.pState with
  | .idle =>
    if s.unsol.isIdle then s.respondToReadRequest cb header objects
    else (s.defer header objects, .idle)
  | .confirmWait => ((s.defer header objects).cancelConfirmTimer.note .abandoned, .idle)

/-- `OnNewNonReadRequest` of the solicited state. -/
def onNewNonReadRequest (s : OContext W) (header : APDUHeader) (objects : List UInt8) :
    OContext W × SolicitedState :=
  match s.sol.pState with
  | .idle => s.respondToNonReadRequest cb header objects
  | .confirmWait => ((s.defer header objects).cancelConfirmTimer.note .abandoned, .idle)

/-- `OnRepeatNonReadRequest` of the solicited state. -/
def onRepeatNonReadRequest (s : OContext W) (header : APDUHeader) (objects : List UInt8) :
    OContext W × SolicitedState :=
  match s.sol.pState with
  | .idle => (s.beginTx.note (.repeated header objects s.sol.tx.getLastResponse), .idle)
  | .confirmWait => (s.defer header objects, .confirmWait)

/-- Clear the records that were written, for a confirm. -/
def clearWritten (s : OContext W) (control : AppControlField) : OContext W :=
  ({ s with eventBuffer := s.eventBuffer.clearWritten }).note
    (.confirmed control (removedIds s.eventBuffer s.eventBuffer.clearWritten))

/-- `OnConfirm` of the solicited state. -/
def onSolConfirm (s : OContext W) (header : APDUHeader) : OContext W × SolicitedState :=
  match s.sol.pState with
  | .idle => (s, .idle)
  | .confirmWait =>
    if s.sol.seq.confirmNum = header.control.SEQ then
      let s := s.cancelConfirmTimer.clearWritten header.control
      if s.hasSelection then s.continueMultiFragResponse cb (header.control.SEQ + 1) else (s, .idle)
    else (s, .confirmWait)

/-- `OnConfirmTimeout` of the solicited state. -/
def onSolConfirmTimeout (s : OContext W) : OContext W × SolicitedState :=
  match s.sol.pState with
  | .idle => (s, .idle)
  | .confirmWait => (s.note .abandoned, .idle)

/-- The solicited state machine goes to a state. -/
def setSolState (s : OContext W) (pState : SolicitedState) : OContext W :=
  { s with sol := { s.sol with pState := pState } }

/-! ## Unsolicited responses -/

/-- `OnConfirm` of the unsolicited state. -/
def onUnsolConfirm (s : OContext W) (header : APDUHeader) : OContext W × UnsolicitedState :=
  match s.unsol.pState with
  | .idle => (s, .idle)
  | .confirmWait =>
    if s.unsol.seq.confirmNum = header.control.SEQ then
      let s := s.cancelConfirmTimer
      if s.unsol.completedNull then (s.clearWritten header.control, .idle)
      else ({ s with unsol := { s.unsol with completedNull := true } }, .idle)
    else (s, .confirmWait)

/-- `OnConfirmTimeout` of the unsolicited state. -/
def onUnsolConfirmTimeout (s : OContext W) : OContext W × UnsolicitedState :=
  match s.unsol.pState with
  | .idle => (s, .idle)
  | .confirmWait => ({ s with eventBuffer := s.eventBuffer.unselect }, .idle)

/-- The unsolicited state machine goes to a state. -/
def setUnsolState (s : OContext W) (pState : UnsolicitedState) : OContext W :=
  { s with unsol := { s.unsol with pState := pState } }

/-- There are events of a class that is reported unsolicited. -/
def hasUnsolicitedEvents (s : OContext W) : Bool :=
  s.params.unsolClassMask.intersects s.eventBuffer.unwrittenClassField

/-- The control field of every unsolicited response. -/
def unsolControl (seq : AppSeqNum) : AppControlField :=
  { FIR := true, FIN := true, CON := true, UNS := true, SEQ := seq }

/-- Send what was written as an unsolicited response. -/
def sendUnsolicited (s : OContext W) (response : APDUResponse) (events : List Nat) : OContext W :=
  let control := unsolControl s.unsol.seq.num
  let response := (response.setControl control).setFunction .unsolicitedResponse
  let (s, responseIIN) := s.getResponseIIN cb
  let response := response.setIIN responseIIN
  ((s.startUnsolicitedConfirmTimer.setUnsolState .confirmWait).beginUnsolTx response).note
    (.unsolicited { control := control, events := events, bytes := response.toRSlice })

/-- Select the events of the classes that are reported, and write as many as fit. -/
def loadUnsolicited (s : OContext W) (writer : HeaderWriter) :
    OContext W × HeaderWriter × List Nat :=
  let selected := s.eventBuffer.unselect.selectAllByClass s.params.unsolClassMask
  let (eventBuffer, writer, _) := selected.load writer
  ({ s with eventBuffer := eventBuffer }, writer, newlyWritten selected eventBuffer)

/-- An unsolicited response may be sent. -/
def canSendUnsolicited (s : OContext W) : Bool :=
  s.canTransmit && s.unsol.isIdle && s.params.allowUnsolicited

/-- Report events of the enabled classes, or that the outstation has started. -/
def checkForUnsolicited (s : OContext W) : OContext W :=
  if s.canSendUnsolicited then
    if s.unsol.completedNull then
      if s.hasUnsolicitedEvents then
        let response := s.unsol.tx.start
        let (s, writer, events) := s.loadUnsolicited response.getWriter
        s.sendUnsolicited cb (response.withWriter writer) events
      else s
    else s.sendUnsolicited cb s.unsol.tx.start []
  else s

/-! ## Requests -/

/-- Answer a request, or keep a READ while a report waits for its confirm. -/
def processNewRequest (s : OContext W) (header : APDUHeader) (objects : List UInt8) :
    OContext W × SolicitedState :=
  let s := { s with sol := { s.sol with seq := { s.sol.seq with num := header.control.SEQ } } }
  if header.function = .read then s.onNewReadRequest cb header objects
  else s.onNewNonReadRequest cb header objects

/-- The request is taken for a repetition of the last one. -/
def isRepeat (s : OContext W) (header : APDUHeader) (objects : List UInt8) : Bool :=
  s.history.hasLast && s.sol.seq.num == header.control.SEQ &&
    s.history.fullyEqualsLastRequest header objects

/-- A request that is repeated gets the response it had before. -/
def onReceiveSolRequest (s : OContext W) (header : APDUHeader) (objects : List UInt8) :
    OContext W × SolicitedState :=
  if s.isRepeat header objects then
    if header.function = .read then (s, s.sol.pState)
    else s.onRepeatNonReadRequest header objects
  else s.processNewRequest cb header objects

/-- What becomes of a request is up to the solicited state machine. -/
def processRequest (s : OContext W) (header : APDUHeader) (objects : List UInt8) : OContext W :=
  if header.control.UNS then s
  else
    let (s, pState) := s.onReceiveSolRequest cb header objects
    s.setSolState pState

/-- A confirm is for the state machine that it names. -/
def processConfirm (s : OContext W) (header : APDUHeader) : OContext W :=
  if header.control.UNS then
    let (s, pState) := s.onUnsolConfirm header
    s.setUnsolState pState
  else
    let (s, pState) := s.onSolConfirm cb header
    s.setSolState pState

/-- A confirm is remembered when it comes in, whether it is deferred or not. -/
def noteConfirm (s : OContext W) (header : APDUHeader) : OContext W :=
  if header.function = .confirm then s.note (.confirmReceived header.control) else s

/-- Requests without an answer are done at once; others wait while a fragment is transmitted. -/
def processAPDU (s : OContext W) (header : APDUHeader) (objects : List UInt8) : OContext W :=
  if header.function.isNoAckFuncCode then s.processRequestNoAck cb header objects
  else
    let s := s.noteConfirm header
    if s.isTransmitting then s.defer header objects
    else if header.function = .confirm then s.processConfirm cb header
    else s.processRequest cb header objects

/-- The plain outstation processes every request. -/
def receiveParsedHeader (s : OContext W) (_ : List UInt8) (header : APDUHeader)
    (objects : List UInt8) : OContext W := s.processAPDU cb header objects

/-- Requests are single fragments that do not ask for a confirm; others are ignored. -/
def parseHeader (s : OContext W) (apdu : List UInt8) : OContext W :=
  match APDUHeaderParser.parseRequest apdu with
  | some header =>
    if !header.control.isFirAndFin || header.control.CON then s
    else s.receiveParsedHeader cb apdu header (apdu.drop 2)
  | none => s

/-! ## Tasks -/

/-- Whether the request that was kept could be processed now. -/
def processDeferredRequest (s : OContext W) (header : APDUHeader) (objects : List UInt8) :
    OContext W × Bool :=
  if header.function = .confirm then (s.processConfirm cb header, true)
  else if header.function = .read then
    if s.unsol.isIdle then (s.processRequest cb header objects, true) else (s, false)
  else (s.processRequest cb header objects, true)

/-- Whether the request is still set is decided by the result only. -/
def checkForDeferredRequest (s : OContext W) : OContext W :=
  if s.canTransmit && s.deferred.isSet then
    let (s, processed) := s.processDeferredRequest cb s.deferred.header s.deferred.objects
    { s with deferred := { s.deferred with isSet := !processed } }
  else s

/-- The request that was kept goes first, then reports. -/
def checkForTaskStart (s : OContext W) : OContext W :=
  (s.checkForDeferredRequest cb).checkForUnsolicited cb

/-! ## Events -/

/-- The outstation is online, and looks for something to do. -/
def onLowerLayerUp (s : OContext W) : OContext W :=
  if s.isOnline then s else ({ s with isOnline := true }).checkForTaskStart cb

/-- Everything that was begun is forgotten, and no event is selected. -/
def onLowerLayerDown (s : OContext W) : OContext W :=
  if s.isOnline then
    ({ s with
      isOnline := false
      isTransmitting := false
      sol := s.sol.reset
      unsol := s.unsol.reset
      history := s.history.reset
      deferred := s.deferred.reset
      eventBuffer := s.eventBuffer.unselect
      fragmentCount := 0
      confirmTimer := none }).note .layerDown
  else s

/-- The transmission is over, whatever its result was. -/
def onSendResult (s : OContext W) (_isSuccess : Bool) : OContext W :=
  if !s.isOnline || !s.isTransmitting then s
  else ({ s with isTransmitting := false }).checkForTaskStart cb

/-- A fragment is processed, and the outstation looks for something to do. -/
def onReceive (s : OContext W) (fragment : List UInt8) : OContext W :=
  if s.isOnline then (s.parseHeader cb fragment).checkForTaskStart cb else s

/-- The confirm timer expires. -/
def onConfirmTimeout (s : OContext W) : OContext W :=
  match s.confirmTimer with
  | none => s
  | some { action := .solicited, .. } =>
    let (s, pState) := s.cancelConfirmTimer.onSolConfirmTimeout
    (s.setSolState pState).checkForTaskStart cb
  | some { action := .unsolicited, .. } =>
    let (s, pState) := s.cancelConfirmTimer.onUnsolConfirmTimeout
    (s.setUnsolState pState).checkForTaskStart cb

/-- `Update` of the database for one point. -/
def updatePoint (s : OContext W) (u : DatabaseBuffers.PointUpdate) : OContext W :=
  match s.database.update u.type u.value u.index u.mode with
  | (database, some evt, _) =>
    { s with
      database := database
      eventBuffer := s.eventBuffer.updateAny evt
      log := s.log ++
        (removedIds s.eventBuffer (s.eventBuffer.updateAny evt)).map Effect.discarded }
  | (database, none, _) => { s with database := database }

/-- A change set is applied, and the outstation checks for something to do. -/
def onUpdates (s : OContext W) (updates : List DatabaseBuffers.PointUpdate) : OContext W :=
  (updates.foldl updatePoint s).checkForTaskStart cb

/-- What can happen to an outstation. -/
inductive Event (W : Type) where
  | lowerLayerUp
  | lowerLayerDown
  | sendResult (isSuccess : Bool)
  | receive (fragment : List UInt8)
  | confirmTimeout
  | updates (updates : List DatabaseBuffers.PointUpdate)
  | setRestartIIN
  /-- Time passes. -/
  | elapse (milliseconds : Nat)
  /-- The user code changes its own state. -/
  | surroundings (world : W)

/-- An event takes place. -/
def step (s : OContext W) : Event W → OContext W
  | .lowerLayerUp => s.onLowerLayerUp cb
  | .lowerLayerDown => s.onLowerLayerDown
  | .sendResult isSuccess => s.onSendResult cb isSuccess
  | .receive fragment => s.onReceive cb fragment
  | .confirmTimeout => s.onConfirmTimeout cb
  | .updates updates => s.onUpdates cb updates
  | .setRestartIIN => { s with staticIIN := s.staticIIN.setBit .deviceRestart }
  | .elapse milliseconds => { s with now := s.now + milliseconds }
  | .surroundings world => { s with world := world }

end OContext
end Outstation
end Dnp3
