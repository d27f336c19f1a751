import Dnp3.Library.Runs
import Dnp3.Link.LinkContext
import Mathlib.Logic.Relation

/-!
# What a link does

After an event the link starts what has been waiting for the primary station to be idle: a request
for the status of the link, or the segments of a message.  `Start` has a case for everything that
can be started.  What is started leaves the secondary station alone, so it does not matter in which
order the states of the two stations are stored.

The functions of the stations return states that their callers store, and a frame is formatted,
queued or left pending in the middle of them.  The definitions here give the effects of these
functions names, such as `released`, `heard` or `expired`, and the lemmas say that the functions of
the source have just these effects.  `Starts` is closed under doing several of them, and
`starts_tryStartTransmission` says that what an event starts is always of this form.
-/

namespace Dnp3
namespace Link

open Asiodnp3 (LinkTransmitMode)
open Library Relation

/-! ## Kinds of states -/

namespace PriState

/-- A frame of the primary station has to be transmitted first. -/
def isTransmitWait : PriState → Bool
  | sendUnconfirmedTransmitWait | linkResetTransmitWait => true
  | confUserDataTransmitWait | requestLinkStatusTransmitWait => true
  | _ => false

/-- A reply of the other end is awaited. -/
def isResponseWait : PriState → Bool
  | resetLinkWait | confDataWait | requestLinkStatusWait => true
  | _ => false

/-- A message is being sent. -/
def sendsSegments : PriState → Bool
  | sendUnconfirmedTransmitWait | linkResetTransmitWait | confUserDataTransmitWait => true
  | resetLinkWait | confDataWait => true
  | _ => false

/-- What is awaited when the frame has been transmitted. -/
def awaited : PriState → Option PriState
  | linkResetTransmitWait => some resetLinkWait
  | confUserDataTransmitWait => some confDataWait
  | requestLinkStatusTransmitWait => some requestLinkStatusWait
  | _ => none

end PriState

namespace SecState

/-- A reply has to be transmitted first. -/
def isTransmitWait : SecState → Bool
  | transmitWaitReset | transmitWaitNotReset => true
  | _ => false

/-- The state when the reply has been transmitted. -/
def transmitted : SecState → SecState
  | transmitWaitReset => reset
  | transmitWaitNotReset => notReset
  | state => state

/-- The state while a status report is transmitted. -/
def reporting : SecState → SecState
  | reset => transmitWaitReset
  | _ => transmitWaitNotReset

end SecState

namespace LinkContext

variable {s s' : LinkContext}

/-! ## Frames -/

/-- A frame is formatted in a buffer and queued. -/
def transmit (s : LinkContext) (primary : Bool) (frame : Format) : LinkContext :=
  (s.format primary frame).1.queueTransmit (s.format primary frame).2 primary

/-- The frame that acknowledges. -/
def ackFrame (c : LinkConfig) : Format := .ack c.isMaster false c.remoteAddr c.localAddr

/-- The frame that answers a request for the link status. -/
def linkStatusFrame (c : LinkConfig) : Format :=
  .linkStatus c.isMaster false c.remoteAddr c.localAddr

/-- The frame that asks for a reset. -/
def resetFrame (c : LinkConfig) : Format := .resetLinkStates c.isMaster c.remoteAddr c.localAddr

/-- The frame that asks for the link status. -/
def requestFrame (c : LinkConfig) : Format := .requestLinkStatus c.isMaster c.remoteAddr c.localAddr

/-- The frame with user data that is acknowledged. -/
def confirmedFrame (c : LinkConfig) (fcb : Bool) (tpdu : UserData) : Format :=
  .confirmedUserData c.isMaster fcb c.remoteAddr c.localAddr tpdu

/-- The frame with user data that is not acknowledged. -/
def unconfirmedFrame (c : LinkConfig) (tpdu : UserData) : Format :=
  .unconfirmedUserData c.isMaster c.remoteAddr c.localAddr tpdu

/-- The transmitter is free again, and the next pending frame is transmitted. -/
def released (s : LinkContext) (primary success : Bool) : LinkContext :=
  (((({ s with txMode := .idle }).note (.transmitResult primary success)).tryPendingTx
    false).tryPendingTx true)

/-- A valid frame was heard. -/
def heard (s : LinkContext) : LinkContext := { s with lastMessageTimestamp := s.now }

/-- The reset of the other end is acknowledged. -/
def resetHeard (s : LinkContext) : LinkContext :=
  ({ s.heard.note .resetAcknowledged with isRemoteReset := true }).resetWriteFCB.cancelTimer

/-- The segment is acknowledged. -/
def ackHeard (s : LinkContext) : LinkContext :=
  (s.heard.note .acknowledged).toggleWriteFCB.cancelTimer

@[simp] theorem isOnline_ackHeard (s : LinkContext) : s.ackHeard.isOnline = s.isOnline := by
  dsimp only [ackHeard, cancelTimer, toggleWriteFCB, note, heard]

@[simp] theorem callbacks_ackHeard (s : LinkContext) : s.ackHeard.callbacks = s.callbacks := by
  dsimp only [ackHeard, cancelTimer, toggleWriteFCB, note, heard]

@[simp] theorem isRemoteReset_ackHeard (s : LinkContext) :
    s.ackHeard.isRemoteReset = s.isRemoteReset := by
  dsimp only [ackHeard, cancelTimer, toggleWriteFCB, note, heard]

@[simp] theorem nextWriteFCB_ackHeard (s : LinkContext) :
    s.ackHeard.nextWriteFCB = !s.nextWriteFCB := by
  dsimp only [ackHeard, cancelTimer, toggleWriteFCB, note, heard]

/-- The response timer has expired. -/
def expired (s : LinkContext) : LinkContext := { s with rspTimeoutTimer := none }

/-- One try less. -/
def retried (s : LinkContext) : LinkContext :=
  { s with rspTimeoutTimer := none, numRetryRemaining := s.numRetryRemaining - 1 }

/-- The status of the link is requested. -/
def requested (s : LinkContext) : LinkContext :=
  ((({ s with keepAliveTimeout := false }).transmit true (requestFrame s.config)).note
    .keepAliveInitiated).setPriState .requestLinkStatusTransmitWait

/-! ## What is left alone -/

/-- What transmitting leaves alone: everything but the buffers, the transmitter and the log. -/
structure KeepsStations (s s' : LinkContext) : Prop where
  config : s'.config = s.config
  now : s'.now = s.now
  callbacks : s'.callbacks = s.callbacks
  pSegments : s'.pSegments = s.pSegments
  numRetryRemaining : s'.numRetryRemaining = s.numRetryRemaining
  rspTimeoutTimer : s'.rspTimeoutTimer = s.rspTimeoutTimer
  keepAliveTimer : s'.keepAliveTimer = s.keepAliveTimer
  nextReadFCB : s'.nextReadFCB = s.nextReadFCB
  nextWriteFCB : s'.nextWriteFCB = s.nextWriteFCB
  isOnline : s'.isOnline = s.isOnline
  isRemoteReset : s'.isRemoteReset = s.isRemoteReset
  keepAliveTimeout : s'.keepAliveTimeout = s.keepAliveTimeout
  lastMessageTimestamp : s'.lastMessageTimestamp = s.lastMessageTimestamp
  pPriState : s'.pPriState = s.pPriState
  pSecState : s'.pSecState = s.pSecState

theorem KeepsStations.refl (s : LinkContext) : KeepsStations s s :=
  ⟨rfl, rfl, rfl, rfl, rfl, rfl, rfl, rfl, rfl, rfl, rfl, rfl, rfl, rfl, rfl⟩

theorem KeepsStations.trans {s'' : LinkContext} (h : KeepsStations s s')
    (h' : KeepsStations s' s'') : KeepsStations s s'' where
  config := h'.config.trans h.config
  now := h'.now.trans h.now
  callbacks := h'.callbacks.trans h.callbacks
  pSegments := h'.pSegments.trans h.pSegments
  numRetryRemaining := h'.numRetryRemaining.trans h.numRetryRemaining
  rspTimeoutTimer := h'.rspTimeoutTimer.trans h.rspTimeoutTimer
  keepAliveTimer := h'.keepAliveTimer.trans h.keepAliveTimer
  nextReadFCB := h'.nextReadFCB.trans h.nextReadFCB
  nextWriteFCB := h'.nextWriteFCB.trans h.nextWriteFCB
  isOnline := h'.isOnline.trans h.isOnline
  isRemoteReset := h'.isRemoteReset.trans h.isRemoteReset
  keepAliveTimeout := h'.keepAliveTimeout.trans h.keepAliveTimeout
  lastMessageTimestamp := h'.lastMessageTimestamp.trans h.lastMessageTimestamp
  pPriState := h'.pPriState.trans h.pPriState
  pSecState := h'.pSecState.trans h.pSecState

theorem keepsStations_format (s : LinkContext) (primary : Bool) (frame : Format) :
    KeepsStations s (s.format primary frame).1 := by
  cases primary <;>
    exact ⟨rfl, rfl, rfl, rfl, rfl, rfl, rfl, rfl, rfl, rfl, rfl, rfl, rfl, rfl, rfl⟩

theorem keepsStations_queueTransmit (s : LinkContext) (size : Nat) (primary : Bool) :
    KeepsStations s (s.queueTransmit size primary) := by
  unfold queueTransmit
  split
  · exact ⟨rfl, rfl, rfl, rfl, rfl, rfl, rfl, rfl, rfl, rfl, rfl, rfl, rfl, rfl, rfl⟩
  · cases primary <;>
      exact ⟨rfl, rfl, rfl, rfl, rfl, rfl, rfl, rfl, rfl, rfl, rfl, rfl, rfl, rfl, rfl⟩

theorem keepsStations_transmit (s : LinkContext) (primary : Bool) (frame : Format) :
    KeepsStations s (s.transmit primary frame) :=
  (s.keepsStations_format primary frame).trans (keepsStations_queueTransmit _ _ _)

theorem keepsStations_tryPendingTx (s : LinkContext) (primary : Bool) :
    KeepsStations s (s.tryPendingTx primary) := by
  unfold tryPendingTx
  split
  · cases primary <;>
      exact ⟨rfl, rfl, rfl, rfl, rfl, rfl, rfl, rfl, rfl, rfl, rfl, rfl, rfl, rfl, rfl⟩
  · exact .refl s

theorem keepsStations_released (s : LinkContext) (primary success : Bool) :
    KeepsStations s (s.released primary success) := by
  have hfree : KeepsStations s
      (({ s with txMode := .idle }).note (.transmitResult primary success)) :=
    ⟨rfl, rfl, rfl, rfl, rfl, rfl, rfl, rfl, rfl, rfl, rfl, rfl, rfl, rfl, rfl⟩
  exact (hfree.trans (keepsStations_tryPendingTx _ false)).trans (keepsStations_tryPendingTx _ true)

/-! ## What is started -/

/-- What the link starts when it may. -/
inductive Start (s : LinkContext) : LinkContext → Prop where
  | take (segments : Segments) (honline : s.isOnline = true) (hfree : s.pSegments = none) :
      Start s ((s.setSegments segments).note (.sending segments.toList))
  | requestStatus (hidle : s.pPriState = .idle) (hdue : s.keepAliveTimeout = true) :
      Start s s.requested
  | confirmed (segments : Segments) (hidle : s.pPriState = .idle)
      (hsegments : s.pSegments = some segments) (hconfirms : s.config.useConfirms = true)
      (hreset : s.isRemoteReset = true) :
      Start s ((s.resetRetry.transmit true
        (confirmedFrame s.config s.nextWriteFCB segments.current)).setPriState
          .confUserDataTransmitWait)
  | reset (segments : Segments) (hidle : s.pPriState = .idle)
      (hsegments : s.pSegments = some segments) (hconfirms : s.config.useConfirms = true)
      (hreset : s.isRemoteReset = false) :
      Start s ((s.resetRetry.transmit true (resetFrame s.config)).setPriState
        .linkResetTransmitWait)
  | unconfirmed (segments : Segments) (hidle : s.pPriState = .idle)
      (hsegments : s.pSegments = some segments) (hconfirms : s.config.useConfirms = false) :
      Start s ((s.transmit true (unconfirmedFrame s.config segments.current)).setPriState
        .sendUnconfirmedTransmitWait)

/-- What the link starts, one after the other. -/
abbrev Starts : LinkContext → LinkContext → Prop := ReflTransGen Start

theorem setPriState_self {state : PriState} (h : s.pPriState = state) :
    s.setPriState state = s := by
  rw [← h]
  rfl

theorem setSecState_self {state : SecState} (h : s.pSecState = state) :
    s.setSecState state = s := by
  rw [← h]
  rfl

theorem storePri_trySendRequestLinkStatus_idle (hidle : s.pPriState = .idle) :
    storePri s.trySendRequestLinkStatus = s.requested := by
  unfold trySendRequestLinkStatus
  split
  next => rfl
  next hbusy => exact absurd hidle hbusy

/-- A station that is busy starts nothing. -/
theorem storePri_trySendRequestLinkStatus (hbusy : s.pPriState ≠ .idle) :
    storePri s.trySendRequestLinkStatus = s := by
  unfold trySendRequestLinkStatus
  split
  next hidle => exact absurd hidle hbusy
  next => exact setPriState_self rfl

theorem storePri_trySendConfirmed (hbusy : s.pPriState ≠ .idle) (segments : Segments) :
    storePri (s.trySendConfirmed segments) = s := by
  unfold trySendConfirmed
  split
  next hidle => exact absurd hidle hbusy
  next => exact setPriState_self rfl

theorem storePri_trySendUnconfirmed (hbusy : s.pPriState ≠ .idle) (segments : Segments) :
    storePri (s.trySendUnconfirmed segments) = s := by
  unfold trySendUnconfirmed
  split
  next hidle => exact absurd hidle hbusy
  next => exact setPriState_self rfl

/-- An idle primary station has nothing to do. -/
structure Served (s : LinkContext) : Prop where
  segments : s.pPriState = .idle → s.pSegments = none
  keepAlive : s.pPriState = .idle → s.keepAliveTimeout = false

theorem Served.of_busy (hbusy : s.pPriState ≠ .idle) : Served s :=
  ⟨fun hidle => absurd hidle hbusy, fun hidle => absurd hidle hbusy⟩

/-- The second half of `tryStartTransmission`. -/
def tryStartSegments (s : LinkContext) : LinkContext :=
  match s.pSegments with
  | none => s
  | some segments =>
    if s.config.useConfirms then storePri (s.trySendConfirmed segments)
    else storePri (s.trySendUnconfirmed segments)

theorem tryStartTransmission_eq (s : LinkContext) :
    s.tryStartTransmission =
      (if s.keepAliveTimeout then storePri s.trySendRequestLinkStatus else s).tryStartSegments :=
  rfl

theorem tryStartSegments_busy (hbusy : s.pPriState ≠ .idle) : s.tryStartSegments = s := by
  unfold tryStartSegments
  split
  next => rfl
  next segments _ =>
    rw [storePri_trySendConfirmed hbusy, storePri_trySendUnconfirmed hbusy, ite_self]

/-- An idle station with a message to send starts with its next segment. -/
theorem starts_tryStartSegments (s : LinkContext) : Starts s s.tryStartSegments := by
  by_cases hidle : s.pPriState = .idle
  · unfold tryStartSegments
    split
    next => exact .refl
    next segments hsegments =>
      split
      next hconfirms =>
        refine .single ?_
        unfold trySendConfirmed
        rw [hidle]
        dsimp only
        split
        next hreset => exact .confirmed segments hidle hsegments hconfirms hreset
        next hreset =>
          exact .reset segments hidle hsegments hconfirms (Bool.not_eq_true _ ▸ hreset)
      next hconfirms =>
        refine .single ?_
        unfold trySendUnconfirmed
        rw [hidle]
        exact .unconfirmed segments hidle hsegments (Bool.not_eq_true _ ▸ hconfirms)
  · rw [tryStartSegments_busy hidle]

/-- Whatever an event starts is a sequence of starts. -/
theorem starts_tryStartTransmission (s : LinkContext) : Starts s s.tryStartTransmission := by
  rw [tryStartTransmission_eq]
  split
  next hdue =>
    refine .trans ?_ (starts_tryStartSegments _)
    by_cases hidle : s.pPriState = .idle
    · rw [storePri_trySendRequestLinkStatus_idle hidle]
      exact .single (.requestStatus hidle hdue)
    · rw [storePri_trySendRequestLinkStatus hidle]
  next => exact starts_tryStartSegments s

/-- Whatever has been waiting for the primary station is started. -/
theorem served_tryStartTransmission (s : LinkContext) : Served s.tryStartTransmission := by
  have hsegments : ∀ {s : LinkContext}, (s.pPriState = .idle → s.keepAliveTimeout = false) →
      Served s.tryStartSegments := by
    intro s hkeepAlive
    unfold tryStartSegments
    split
    next hnone => exact ⟨fun _ => hnone, hkeepAlive⟩
    next segments hsome =>
      by_cases hidle : s.pPriState = .idle
      · refine .of_busy ?_
        unfold trySendConfirmed trySendUnconfirmed
        rw [hidle]
        dsimp only
        split
        · split <;> exact fun h => by cases h
        · exact fun h => by cases h
      · rw [storePri_trySendConfirmed hidle, storePri_trySendUnconfirmed hidle, ite_self]
        exact .of_busy hidle
  rw [tryStartTransmission_eq]
  refine hsegments fun hidle => ?_
  split at hidle
  next hdue =>
    rw [if_pos hdue]
    by_cases hidle' : s.pPriState = .idle
    · rw [storePri_trySendRequestLinkStatus_idle hidle'] at hidle
      cases hidle
    · rw [storePri_trySendRequestLinkStatus hidle'] at hidle
      exact absurd hidle hidle'
  next hnot =>
    rw [if_neg hnot]
    exact Bool.not_eq_true _ ▸ hnot

/-- A message that is taken may be started at once. -/
theorem starts_send (s : LinkContext) (segments : Segments) : Starts s (s.send segments) := by
  unfold send setTxSegment
  cases honline : s.isOnline with
  | false => exact .refl
  | true =>
    cases hfree : s.pSegments with
    | some _ => exact .refl
    | none => exact .head (.take segments honline hfree) (starts_tryStartTransmission _)

theorem starts_sends (s : LinkContext) (sends : List Segments) : Starts s (sends.foldl send s) := by
  induction sends generalizing s with
  | nil => exact .refl
  | cons segments sends ih => exact (s.starts_send segments).trans (ih _)

theorem Served.send (h : Served s) (segments : Segments) : Served (s.send segments) := by
  unfold LinkContext.send setTxSegment
  cases s.isOnline with
  | false => exact h
  | true =>
    cases s.pSegments with
    | some _ => exact h
    | none => exact served_tryStartTransmission _

theorem Served.sends (h : Served s) (sends : List Segments) :
    Served (sends.foldl LinkContext.send s) := by
  induction sends generalizing s with
  | nil => exact h
  | cons segments sends ih => exact ih (h.send segments)

/-! ## The secondary station while messages are sent -/

/-- Transmitting does not look at the state of the secondary station. -/
theorem transmit_setSecState (s : LinkContext) (state : SecState) (primary : Bool)
    (frame : Format) :
    (s.setSecState state).transmit primary frame =
      (s.transmit primary frame).setSecState state := by
  by_cases hfree : s.txMode = .idle
  · cases primary <;>
      simp [transmit, queueTransmit, format, setSecState, note, hfree, beginTransmit, txBuffer]
  · cases primary <;>
      simp [transmit, queueTransmit, format, setSecState, note, hfree, setPendingTx]

theorem storePri_trySendRequestLinkStatus_setSecState (s : LinkContext) (state : SecState) :
    storePri (s.setSecState state).trySendRequestLinkStatus =
      (storePri s.trySendRequestLinkStatus).setSecState state := by
  by_cases hidle : s.pPriState = .idle
  · rw [storePri_trySendRequestLinkStatus_idle hidle,
      storePri_trySendRequestLinkStatus_idle (s := s.setSecState state) hidle]
    have h := transmit_setSecState { s with keepAliveTimeout := false } state true
      (requestFrame s.config)
    exact congrArg (fun x : LinkContext => (x.note .keepAliveInitiated).setPriState
      .requestLinkStatusTransmitWait) h
  · rw [storePri_trySendRequestLinkStatus hidle]
    exact storePri_trySendRequestLinkStatus (s := s.setSecState state) hidle

theorem storePri_trySendConfirmed_setSecState (s : LinkContext) (state : SecState)
    (segments : Segments) :
    storePri ((s.setSecState state).trySendConfirmed segments) =
      (storePri (s.trySendConfirmed segments)).setSecState state := by
  by_cases hidle : s.pPriState = .idle
  · have hleft : (s.setSecState state).pPriState = .idle := hidle
    have hreset : (s.setSecState state).isRemoteReset = s.isRemoteReset := rfl
    unfold trySendConfirmed
    simp only [hleft, hidle, hreset]
    split
    · exact congrArg (setPriState · _) (transmit_setSecState s.resetRetry state true _)
    · exact congrArg (setPriState · _) (transmit_setSecState s.resetRetry state true _)
  · rw [storePri_trySendConfirmed hidle]
    exact storePri_trySendConfirmed (s := s.setSecState state) hidle segments

theorem storePri_trySendUnconfirmed_setSecState (s : LinkContext) (state : SecState)
    (segments : Segments) :
    storePri ((s.setSecState state).trySendUnconfirmed segments) =
      (storePri (s.trySendUnconfirmed segments)).setSecState state := by
  by_cases hidle : s.pPriState = .idle
  · have hleft : (s.setSecState state).pPriState = .idle := hidle
    unfold trySendUnconfirmed
    simp only [hleft, hidle]
    exact congrArg (setPriState · _) (transmit_setSecState s state true _)
  · rw [storePri_trySendUnconfirmed hidle]
    exact storePri_trySendUnconfirmed (s := s.setSecState state) hidle segments

/-- What the primary station does is the same whatever the secondary one does meanwhile. -/
theorem tryStartTransmission_setSecState (s : LinkContext) (state : SecState) :
    (s.setSecState state).tryStartTransmission = s.tryStartTransmission.setSecState state := by
  have hsegments : ∀ s : LinkContext,
      (s.setSecState state).tryStartSegments = s.tryStartSegments.setSecState state := by
    intro s
    have hleft : (s.setSecState state).pSegments = s.pSegments := rfl
    have hconfig : (s.setSecState state).config = s.config := rfl
    unfold tryStartSegments
    rw [hleft, hconfig]
    split
    · rfl
    · split
      · exact storePri_trySendConfirmed_setSecState s state _
      · exact storePri_trySendUnconfirmed_setSecState s state _
  have hdue : (s.setSecState state).keepAliveTimeout = s.keepAliveTimeout := rfl
  rw [tryStartTransmission_eq, tryStartTransmission_eq, hdue,
    storePri_trySendRequestLinkStatus_setSecState, ← hsegments]
  split <;> rfl

/-- A message is taken alike in all states of the secondary station. -/
theorem send_setSecState (s : LinkContext) (state : SecState) (segments : Segments) :
    (s.setSecState state).send segments = (s.send segments).setSecState state := by
  have honline : (s.setSecState state).isOnline = s.isOnline := rfl
  have hsegments : (s.setSecState state).pSegments = s.pSegments := rfl
  unfold send setTxSegment
  rw [honline, hsegments]
  cases s.isOnline with
  | false => rfl
  | true =>
    cases s.pSegments with
    | some _ => rfl
    | none =>
      exact tryStartTransmission_setSecState
        ((s.setSegments segments).note (.sending segments.toList)) state

theorem sends_setSecState (s : LinkContext) (state : SecState) (sends : List Segments) :
    sends.foldl send (s.setSecState state) = (sends.foldl send s).setSecState state := by
  induction sends generalizing s with
  | nil => rfl
  | cons segments sends ih =>
    rw [List.foldl_cons, List.foldl_cons, send_setSecState]
    exact ih _

end LinkContext
end Link
end Dnp3
