import Dnp3.Asiodnp3.PhysicalLayerMonitor
import Dnp3.Library.Observer
import Dnp3.Library.Runs
import Dnp3.Link.Format
import Mathlib.Logic.Function.Basic

/-!
# The link layer router

A channel with its contexts: the router keeps a record of each context and a queue of the frames
they transmit, and is the monitor of the physical layer it writes them to.  The queue refers to the
buffers of the contexts, so the contexts belong to the state with what they know of their own
transmissions: whether they are online, which of their two buffers is with the router, and which of
them waits behind it.

What a context's layers do in a callback is chosen by the environment: the frames they transmit
there are an argument of the event.  The log keeps what happens between the router, its contexts and
the physical layer, in order; no definition of the router reads it.
-/

namespace Dnp3
namespace Asiodnp3

open Library Link

/-! ## The contexts -/

/-- The addresses that a frame has to have to be one of a context. -/
structure Route where
  source : UInt16
  destination : UInt16
  deriving DecidableEq, Repr

/-- Which of the two buffers of a context is being transmitted. -/
inductive LinkTransmitMode where
  | idle
  | primary
  | secondary
  deriving DecidableEq, Repr

/-- The mode while a buffer is with the router. -/
def LinkTransmitMode.of (primary : Bool) : LinkTransmitMode :=
  if primary then .primary else .secondary

/-- The part of a `LinkContext` that transmits; `true` is the primary buffer, `false` the secondary
one. -/
structure LinkSession where
  isOnline : Bool
  txMode : LinkTransmitMode
  pendingTx : Bool → Bool
  txBuffer : Bool → List UInt8

namespace LinkSession

/-- A session that is down and has sent nothing. -/
def initial : LinkSession where
  isOnline := false
  txMode := .idle
  pendingTx := fun _ => false
  txBuffer := fun _ => []

/-- The station is in one of its transmit-wait states, in which it formats nothing. -/
def inTransmitWait (x : LinkSession) (primary : Bool) : Bool :=
  x.txMode == .of primary || x.pendingTx primary

/-- A frame is written to the buffer of its station. -/
def format (x : LinkSession) (f : Link.Format) : LinkSession :=
  { x with txBuffer := Function.update x.txBuffer f.fields.func.isPrimary f.bytes }

/-- A buffer is being transmitted, or none is. -/
def setMode (x : LinkSession) (mode : LinkTransmitMode) : LinkSession := { x with txMode := mode }

/-- A buffer waits to be transmitted, or does not. -/
def setPending (x : LinkSession) (primary pending : Bool) : LinkSession :=
  { x with pendingTx := Function.update x.pendingTx primary pending }

/-- `LinkContext::OnLowerLayerDown`. -/
def down (x : LinkSession) : LinkSession :=
  if x.isOnline then
    { x with isOnline := false, txMode := .idle, pendingTx := fun _ => false }
  else x

end LinkSession

/-! ## The state -/

/-- A context that is registered, with its route. -/
structure Record (κ : Type) where
  pContext : κ
  route : Route
  enabled : Bool

/-- A queued frame: the context and which of its buffers the frame is in. -/
structure Transmission (κ : Type) where
  pContext : κ
  primary : Bool

/-- What the router does, as contexts and layer see it. -/
inductive LogEntry (κ : Type) where
  /-- The context is added. -/
  | added (c : κ)
  /-- The context is removed. -/
  | removed (c : κ)
  /-- `OnLowerLayerUp` is called. -/
  | up (c : κ)
  /-- `OnLowerLayerDown` is called. -/
  | down (c : κ)
  /-- The context queues these bytes. -/
  | queued (c : κ) (bytes : List UInt8)
  /-- These bytes are handed to the physical layer. -/
  | written (bytes : List UInt8)
  /-- `OnTransmitResult` is called, when these are the bytes in the buffer that was written. -/
  | transmitResult (c : κ) (bytes : List UInt8)
  /-- The channel has closed; the queue is dropped. -/
  | closed

/-- The router with its monitor, its physical layer and the contexts. -/
structure LinkLayerRouter (κ : Type) where
  pPhys : PhysicalLayer
  isOnline : Bool
  mpOpenTimer : Bool
  mpState : MonitorState
  records : List (Record κ)
  transmitQueue : List (Transmission κ)
  isTransmitting : Bool
  sessions : κ → LinkSession
  log : List (LogEntry κ)

namespace LinkLayerRouter

variable {κ : Type}

/-- A router without contexts, whose layer is closed. -/
def initial : LinkLayerRouter κ where
  pPhys := .closed
  isOnline := false
  mpOpenTimer := false
  mpState := .init
  records := []
  transmitQueue := []
  isTransmitting := false
  sessions := fun _ => .initial
  log := []

/-- The bytes a queued frame refers to. -/
def content (s : LinkLayerRouter κ) (tx : Transmission κ) : List UInt8 :=
  (s.sessions tx.pContext).txBuffer tx.primary

/-- Remember what the router did. -/
def note (s : LinkLayerRouter κ) (e : LogEntry κ) : LinkLayerRouter κ :=
  { s with log := s.log ++ [e] }

/-- Some context is enabled. -/
def hasEnabledContext (s : LinkLayerRouter κ) : Bool := s.records.any (·.enabled)

/-- Some context has the route. -/
def isRouteInUse (s : LinkLayerRouter κ) (route : Route) : Bool :=
  s.records.any (·.route == route)

/-! ## Transmitting -/

/-- Write the first frame of the queue, if the layer can write. -/
def checkForSend (s : LinkLayerRouter κ) : LinkLayerRouter κ :=
  match s.transmitQueue with
  | [] => s
  | tx :: _ =>
    if !s.isTransmitting && s.pPhys.canWrite then
      ({ s with isTransmitting := true, pPhys.isWriting := true }).note (.written (s.content tx))
    else s

/-- A frame waits behind the others. -/
def enqueue (s : LinkLayerRouter κ) (tx : Transmission κ) : LinkLayerRouter κ :=
  ({ s with transmitQueue := s.transmitQueue ++ [tx] }).note (.queued tx.pContext (s.content tx))

/-- A context transmits a buffer; a router that is offline ignores it. -/
def beginTransmit (s : LinkLayerRouter κ) (c : κ) (primary : Bool) : LinkLayerRouter κ :=
  if s.isOnline then (s.enqueue { pContext := c, primary := primary }).checkForSend
  else s

variable [DecidableEq κ]

/-- The context is registered. -/
def hasContext (s : LinkLayerRouter κ) (c : κ) : Bool := s.records.any (·.pContext == c)

/-- The session of a context changes. -/
def setSession (s : LinkLayerRouter κ) (c : κ) (x : LinkSession) : LinkLayerRouter κ :=
  { s with sessions := Function.update s.sessions c x }

/-- `LinkContext::QueueTransmit`. -/
def queueTransmit (s : LinkLayerRouter κ) (c : κ) (primary : Bool) : LinkLayerRouter κ :=
  if (s.sessions c).txMode = .idle then
    (s.setSession c ((s.sessions c).setMode (.of primary))).beginTransmit c primary
  else s.setSession c ((s.sessions c).setPending primary true)

/-- A context formats a frame and queues it.  Only a registered context that is online does, and
only in a state that does not wait for a frame of that station to be transmitted. -/
def transmit (s : LinkLayerRouter κ) (c : κ) (f : Link.Format) : LinkLayerRouter κ :=
  if s.hasContext c && (s.sessions c).isOnline &&
      !(s.sessions c).inTransmitWait f.fields.func.isPrimary then
    (s.setSession c ((s.sessions c).format f)).queueTransmit c f.fields.func.isPrimary
  else s

/-- The frames a context transmits in a callback. -/
def transmitAll (s : LinkLayerRouter κ) (c : κ) (frames : List Link.Format) : LinkLayerRouter κ :=
  frames.foldl (fun s f => s.transmit c f) s

/-- `LinkContext::TryPendingTx`. -/
def tryPendingTx (s : LinkLayerRouter κ) (c : κ) (primary : Bool) : LinkLayerRouter κ :=
  if (s.sessions c).txMode = .idle ∧ (s.sessions c).pendingTx primary then
    let s := s.beginTransmit c primary
    s.setSession c (((s.sessions c).setPending primary false).setMode (.of primary))
  else s

/-- `LinkContext::OnTransmitResult`; the frames are those of the state that handles the result. -/
def onTransmitResult (s : LinkLayerRouter κ) (c : κ) (frames : List Link.Format) :
    LinkLayerRouter κ :=
  if (s.sessions c).txMode = .idle then s
  else
    let s := s.setSession c ((s.sessions c).setMode .idle)
    let s := s.tryPendingTx c false
    let s := s.tryPendingTx c true
    s.transmitAll c frames

/-- The physical layer has written a frame. -/
def onSendResult (s : LinkLayerRouter κ) (frames : List Link.Format) : LinkLayerRouter κ :=
  match s.transmitQueue with
  | [] => s
  | pTx :: rest =>
    let s := { s with isTransmitting := false, transmitQueue := rest }
    let s := s.note (.transmitResult pTx.pContext (s.content pTx))
    let s := s.onTransmitResult pTx.pContext frames
    s.checkForSend

/-! ## The layer below goes up and down -/

/-- `OnLowerLayerUp` of a context; the frames are those its layers transmit there. -/
def lowerLayerUp (s : LinkLayerRouter κ) (c : κ) (frames : List Link.Format) : LinkLayerRouter κ :=
  let s := s.note (.up c)
  if (s.sessions c).isOnline then s
  else (s.setSession c { s.sessions c with isOnline := true }).transmitAll c frames

/-- `OnLowerLayerDown` of a context. -/
def lowerLayerDown (s : LinkLayerRouter κ) (c : κ) : LinkLayerRouter κ :=
  (s.note (.down c)).setSession c (s.sessions c).down

/-- The channel is open: the enabled contexts go up, and the router reads. -/
def onPhysicalLayerOpenSuccessCallback (s : LinkLayerRouter κ) (frames : κ → List Link.Format) :
    LinkLayerRouter κ :=
  s.records.foldl
    (fun s rec => if rec.enabled then s.lowerLayerUp rec.pContext (frames rec.pContext) else s)
    { s with pPhys := s.pPhys.beginRead }

/-- The channel is closed: the queue is dropped, and the enabled contexts go down. -/
def onPhysicalLayerCloseCallback (s : LinkLayerRouter κ) : LinkLayerRouter κ :=
  s.records.foldl (fun s rec => if rec.enabled then s.lowerLayerDown rec.pContext else s)
    (({ s with isTransmitting := false, transmitQueue := [] }).note .closed)

/-- The monitor's handler of the layer coming up. -/
def onLowerLayerUp (s : LinkLayerRouter κ) (frames : κ → List Link.Format) : LinkLayerRouter κ :=
  match s.mpState.onLayerOpen with
  | none => s
  | some state =>
    ({ s with mpState := state, isOnline := true }).onPhysicalLayerOpenSuccessCallback frames

/-- The actions of the monitor on its timer and the layer, closing apart. -/
def act (s : LinkLayerRouter κ) (action : MonitorAction) : LinkLayerRouter κ :=
  match action with
  | .startOpenTimer => { s with mpOpenTimer := true }
  | .cancelOpenTimer => { s with mpOpenTimer := false }
  | .beginOpen => { s with pPhys := s.pPhys.beginOpen }
  | .none | .beginClose => s

/-- The monitor's handler of the layer going down. -/
def onLowerLayerDown (s : LinkLayerRouter κ) : LinkLayerRouter κ :=
  match s.mpState.onLayerClose with
  | none => s
  | some (state, action) =>
    ({ ({ s with mpState := state }).act action with
      isOnline := false }).onPhysicalLayerCloseCallback

/-- The monitor's handler of a failure to open. -/
def onOpenFailure (s : LinkLayerRouter κ) : LinkLayerRouter κ :=
  match s.mpState.onOpenFailure with
  | none => s
  | some (state, action) => ({ s with mpState := state }).act action

/-- Tell the monitor when the layer is closed. -/
def checkForClose (s : LinkLayerRouter κ) : LinkLayerRouter κ :=
  let (phys, closed) := s.pPhys.checkForClose
  let s := { s with pPhys := phys }
  if closed then s.onLowerLayerDown else s

/-- The layer is told to close, which it does when nothing is pending. -/
def beginClose (s : LinkLayerRouter κ) : LinkLayerRouter κ :=
  ({ s with pPhys := s.pPhys.startClose }).checkForClose

/-- A request to the monitor: its state changes, then it acts. -/
def request (s : LinkLayerRouter κ) (answer : MonitorState → MonitorState × MonitorAction) :
    LinkLayerRouter κ :=
  let (state, action) := answer s.mpState
  let s := { s with mpState := state }
  if action = .beginClose then s.beginClose else s.act action

/-- The monitor keeps the channel open from now on. -/
def start (s : LinkLayerRouter κ) : LinkLayerRouter κ := s.request MonitorState.onStartRequest

/-- The monitor closes the channel until it is started again. -/
def suspend (s : LinkLayerRouter κ) : LinkLayerRouter κ := s.request MonitorState.onSuspendRequest

/-- The monitor closes the channel for good. -/
def shutdown (s : LinkLayerRouter κ) : LinkLayerRouter κ := s.request MonitorState.onShutdownRequest

/-! ## The records -/

/-- A context is registered, if neither it nor its route is. -/
def addContext (s : LinkLayerRouter κ) (c : κ) (route : Route) : LinkLayerRouter κ :=
  if s.isRouteInUse route then s
  else if s.hasContext c then s
  else
    let added : Record κ := { pContext := c, route := route, enabled := false }
    ({ s with records := s.records ++ [added] }).note (.added c)

/-- A context is enabled or disabled. -/
def setEnabled (s : LinkLayerRouter κ) (c : κ) (enabled : Bool) : LinkLayerRouter κ :=
  { s with records := s.records.map fun rec =>
      if rec.pContext = c then { rec with enabled := enabled } else rec }

/-- The record of a context. -/
def record (s : LinkLayerRouter κ) (c : κ) : Option (Record κ) :=
  s.records.find? (·.pContext == c)

/-- Enable a context; the frames are those its layers transmit when they come up. -/
def enable (s : LinkLayerRouter κ) (c : κ) (frames : List Link.Format) : LinkLayerRouter κ :=
  match s.record c with
  | none => s
  | some iter =>
    if iter.enabled then s
    else
      let s := s.setEnabled c true
      let s := if s.isOnline then s.lowerLayerUp c frames else s
      s.start

/-- A context is disabled, and goes down if the channel is open; without an enabled one the channel
is suspended. -/
def disable (s : LinkLayerRouter κ) (c : κ) : LinkLayerRouter κ :=
  match s.record c with
  | none => s
  | some iter =>
    if iter.enabled then
      let s := s.setEnabled c false
      let s := if s.isOnline then s.lowerLayerDown c else s
      if !s.hasEnabledContext then s.suspend else s
    else s

/-- A context that is up goes down, and is forgotten; without an enabled one the channel is
suspended. -/
def remove (s : LinkLayerRouter κ) (c : κ) : LinkLayerRouter κ :=
  match s.record c with
  | none => s
  | some iter =>
    let s := if s.mpState.getState = .opened ∧ iter.enabled then s.lowerLayerDown c else s
    let s := ({ s with records := s.records.eraseP (·.pContext == c) }).note (.removed c)
    if !s.hasEnabledContext then s.suspend else s

/-! ## The physical layer -/

/-- The layer is open, or could not be opened. -/
def onOpenCallback (s : LinkLayerRouter κ) (err : Bool) (frames : κ → List Link.Format) :
    LinkLayerRouter κ :=
  if s.pPhys.isOpening then
    let s := { s with pPhys.isOpening := false }
    if err || s.pPhys.isClosing then
      ({ s with pPhys := s.pPhys.checkForClose.1 }).onOpenFailure
    else ({ s with pPhys.isOpen := true }).onLowerLayerUp frames
  else s

/-- Bytes are read; the frames are those the contexts transmit on what they receive in them. -/
def onReadCallback (s : LinkLayerRouter κ) (err : Bool) (frames : List (κ × Link.Format)) :
    LinkLayerRouter κ :=
  if s.pPhys.isReading then
    let s := { s with pPhys.isReading := false }
    if err then ({ s with pPhys := s.pPhys.startClose }).checkForClose
    else if s.pPhys.isClosing then s.checkForClose
    else
      let s := frames.foldl (fun s x => s.transmit x.1 x.2) s
      ({ s with pPhys := s.pPhys.beginRead }).checkForClose
  else s

/-- A write is done; the frames are those its context transmits on the result. -/
def onWriteCallback (s : LinkLayerRouter κ) (err : Bool) (frames : List Link.Format) :
    LinkLayerRouter κ :=
  if s.pPhys.isWriting then
    let s := { s with pPhys.isWriting := false }
    if err then ({ s with pPhys := s.pPhys.startClose }).checkForClose
    else if s.pPhys.isClosing then s.checkForClose
    else (s.onSendResult frames).checkForClose
  else s

/-- The layer is opened again after a while. -/
def onOpenTimerExpiration (s : LinkLayerRouter κ) : LinkLayerRouter κ :=
  match s.mpState.onOpenTimeout with
  | none => s
  | some (state, action) => { ({ s with mpState := state }).act action with mpOpenTimer := false }

/-! ## Events -/

/-- What can happen to the router. -/
inductive Event (κ : Type) where
  | addContext (c : κ) (route : Route)
  | enable (c : κ) (frames : List Link.Format)
  | disable (c : κ)
  | remove (c : κ)
  | shutdown
  | transmit (c : κ) (f : Link.Format)
  | openCallback (err : Bool) (frames : κ → List Link.Format)
  | readCallback (err : Bool) (frames : List (κ × Link.Format))
  | writeCallback (err : Bool) (frames : List Link.Format)
  | openTimerExpiration

/-- An event takes place. -/
def step (s : LinkLayerRouter κ) : Event κ → LinkLayerRouter κ
  | .addContext c route => s.addContext c route
  | .enable c frames => s.enable c frames
  | .disable c => s.disable c
  | .remove c => s.remove c
  | .shutdown => s.shutdown
  | .transmit c f => s.transmit c f
  | .openCallback err frames => s.onOpenCallback err frames
  | .readCallback err frames => s.onReadCallback err frames
  | .writeCallback err frames => s.onWriteCallback err frames
  | .openTimerExpiration => if s.mpOpenTimer then s.onOpenTimerExpiration else s

end LinkLayerRouter
end Asiodnp3
end Dnp3
