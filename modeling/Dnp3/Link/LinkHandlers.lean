import Dnp3.Link.LinkMoves

/-!
# The events of a link

`Handles` has a case for everything that an event can do before the link starts what has been
waiting, with the state after it; proofs about links go by these cases.

In every state the stations fit the transmitter, the response timer and the message that is being
sent (`Steady`): a station that waits for its frame to be transmitted has a frame with the router or
a pending one, the response timer runs while a reply is awaited, and a state that sends a message
has one.

`handled_step` is the theorem that the cases are complete for steady links, and `Steady.step` that
links stay steady.  Together they are all that the observers of a link need: `Link.SentMessages`,
`Link.TransmitBuffers` and `Link.ReportedStatus` go through the cases of `Handles` and through what
is started afterwards (`Starts`), and no function of the source is unfolded again.
-/

namespace Dnp3
namespace Link

open Asiodnp3 (LinkTransmitMode)
open Library Relation

namespace LinkContext

variable {s s' : LinkContext} {primary : Bool}

/-! ## The transmitter -/

/-- A frame of the station is with the router or pending. -/
def awaits (s : LinkContext) (primary : Bool) : Bool :=
  decide (s.txMode = .of primary) || (s.pendingTx primary).isSome

theorem of_ne_idle (primary : Bool) : LinkTransmitMode.of primary ≠ .idle := by
  cases primary <;> exact fun h => by cases h

theorem of_ne_of_not (primary : Bool) :
    LinkTransmitMode.of primary ≠ .of !primary := by
  cases primary <;> exact fun h => by cases h

/-- A station has one frame at most, and a frame is pending only if another one is transmitted. -/
structure Orderly (s : LinkContext) : Prop where
  once : ∀ primary, s.txMode = .of primary → s.pendingTx primary = none
  free : s.txMode = .idle → ∀ primary, s.pendingTx primary = none

theorem awaits_eq_false : s.awaits primary = false ↔
    s.txMode ≠ .of primary ∧ s.pendingTx primary = none := by
  simp [awaits]

@[simp] theorem pendingTx_setPendingTx (s : LinkContext) (primary : Bool) (pending : Option Nat) :
    (s.setPendingTx primary pending).pendingTx primary = pending := by
  cases primary <;> rfl

@[simp] theorem pendingTx_not_setPendingTx (s : LinkContext) (primary : Bool)
    (pending : Option Nat) :
    (s.setPendingTx primary pending).pendingTx (!primary) = s.pendingTx (!primary) := by
  cases primary <;> rfl

@[simp] theorem txMode_setPendingTx (s : LinkContext) (primary : Bool) (pending : Option Nat) :
    (s.setPendingTx primary pending).txMode = s.txMode := by
  cases primary <;> rfl

@[simp] theorem txMode_format (s : LinkContext) (primary : Bool) (frame : Format) :
    (s.format primary frame).1.txMode = s.txMode := by
  cases primary <;> rfl

@[simp] theorem pendingTx_format (s : LinkContext) (primary : Bool) (frame : Format)
    (primary' : Bool) : (s.format primary frame).1.pendingTx primary' = s.pendingTx primary' := by
  cases primary <;> rfl

/-- A frame that finds the transmitter free is given to the router. -/
theorem transmit_free (h : s.txMode = .idle) (primary : Bool) (frame : Format) :
    (s.transmit primary frame).txMode = .of primary ∧
      ∀ primary', (s.transmit primary frame).pendingTx primary' = s.pendingTx primary' := by
  have hfree : (s.format primary frame).1.txMode = .idle := by rw [txMode_format, h]
  unfold transmit queueTransmit
  rw [if_pos hfree]
  exact ⟨rfl, fun primary' => pendingTx_format s primary frame primary'⟩

/-- A frame that does not is pending. -/
theorem transmit_busy (h : s.txMode ≠ .idle) (primary : Bool) (frame : Format) :
    (s.transmit primary frame).txMode = s.txMode ∧
      ((s.transmit primary frame).pendingTx primary).isSome ∧
      (s.transmit primary frame).pendingTx (!primary) = s.pendingTx (!primary) := by
  have hbusy : ¬ (s.format primary frame).1.txMode = .idle := by rwa [txMode_format]
  unfold transmit queueTransmit
  rw [if_neg hbusy]
  refine ⟨?_, ?_, ?_⟩
  · exact (txMode_setPendingTx _ _ _).trans (txMode_format s primary frame)
  · exact congrArg Option.isSome (pendingTx_setPendingTx _ primary _) |>.trans rfl
  · exact (pendingTx_not_setPendingTx _ primary _).trans (pendingTx_format s primary frame _)

/-- A station without a frame may transmit one. -/
theorem orderly_transmit (h : Orderly s) (hnot : s.awaits primary = false) (frame : Format) :
    Orderly (s.transmit primary frame) := by
  obtain ⟨hmode, hnone⟩ := awaits_eq_false.mp hnot
  by_cases hfree : s.txMode = .idle
  · obtain ⟨hof, hpending⟩ := transmit_free hfree primary frame
    refine ⟨fun primary' _ => ?_, fun hidle => ?_⟩
    · rw [hpending]
      exact h.free hfree primary'
    · exact absurd (hof.symm.trans hidle) (of_ne_idle primary)
  · obtain ⟨hsame, _, hother⟩ := transmit_busy hfree primary frame
    refine ⟨fun primary' hof => ?_, fun hidle => ?_⟩
    · rw [hsame] at hof
      have hne : primary' = !primary := by
        cases primary <;> cases primary' <;> simp_all
      rw [hne] at hof ⊢
      rw [hother]
      exact h.once _ hof
    · exact absurd (hsame.symm.trans hidle) hfree

theorem awaits_transmit (s : LinkContext) (primary : Bool) (frame : Format) :
    (s.transmit primary frame).awaits primary = true := by
  by_cases hfree : s.txMode = .idle
  · simp [awaits, (transmit_free hfree primary frame).1]
  · simp [awaits, (transmit_busy hfree primary frame).2.1]

theorem awaits_transmit_not (s : LinkContext) (primary : Bool) (frame : Format) :
    (s.transmit primary frame).awaits (!primary) = s.awaits (!primary) := by
  by_cases hfree : s.txMode = .idle
  · obtain ⟨hof, hpending⟩ := transmit_free hfree primary frame
    simp [awaits, hof, hpending, hfree, of_ne_of_not, (of_ne_idle _).symm]
  · obtain ⟨hsame, _, hother⟩ := transmit_busy hfree primary frame
    simp [awaits, hsame, hother]

theorem tryPendingTx_none (h : s.pendingTx primary = none) : s.tryPendingTx primary = s := by
  unfold tryPendingTx
  rw [h]
  split
  · contradiction
  · rfl

theorem tryPendingTx_busy (h : s.txMode ≠ .idle) : s.tryPendingTx primary = s := by
  unfold tryPendingTx
  split
  next hidle _ => exact absurd hidle h
  next => rfl

theorem tryPendingTx_some {size : Nat} (hidle : s.txMode = .idle)
    (h : s.pendingTx primary = some size) :
    s.tryPendingTx primary =
      { (s.beginTransmit size primary).setPendingTx primary none with txMode := .of primary } := by
  unfold tryPendingTx
  rw [h]
  split
  next heq => cases heq; rfl
  next hnot => exact absurd rfl (hnot size hidle)

/-- The transmitter right after the result of a transmission. -/
def freed (s : LinkContext) (primary success : Bool) : LinkContext :=
  ({ s with txMode := .idle }).note (.transmitResult primary success)

/-- Nothing has been waiting for the transmitter. -/
theorem released_of_none (h : Orderly s) (hmode : s.txMode = .of primary)
    (hnone : s.pendingTx (!primary) = none) (success : Bool) :
    s.released primary success = s.freed primary success := by
  have hall : ∀ primary', (s.freed primary success).pendingTx primary' = none := by
    intro primary'
    by_cases hsame : primary' = primary
    · rw [hsame]
      exact h.once primary hmode
    · rw [show primary' = !primary by cases primary <;> cases primary' <;> simp_all]
      exact hnone
  change ((s.freed primary success).tryPendingTx false).tryPendingTx true = _
  rw [tryPendingTx_none (hall false), tryPendingTx_none (hall true)]

/-- The frame of the other station has been waiting for the transmitter. -/
theorem released_of_some {size : Nat} (h : Orderly s) (hmode : s.txMode = .of primary)
    (hsome : s.pendingTx (!primary) = some size) (success : Bool) :
    s.released primary success =
      { ((s.freed primary success).beginTransmit size !primary).setPendingTx (!primary) none with
        txMode := .of !primary } := by
  have hown : (s.freed primary success).pendingTx primary = none := h.once primary hmode
  change ((s.freed primary success).tryPendingTx false).tryPendingTx true = _
  cases primary with
  | false =>
    have hnext : (s.freed false success).pendingTx true = some size := hsome
    rw [tryPendingTx_none hown, tryPendingTx_some rfl hnext]
    rfl
  | true =>
    have hnext : (s.freed true success).pendingTx false = some size := hsome
    rw [tryPendingTx_some rfl hnext, tryPendingTx_busy (of_ne_idle false)]
    rfl

/-- The station whose frame was transmitted has none, and that of the other station goes next. -/
theorem orderly_released (h : Orderly s) (hmode : s.txMode = .of primary) (success : Bool) :
    Orderly (s.released primary success) ∧
      (s.released primary success).awaits primary = false ∧
      (s.released primary success).awaits (!primary) = s.awaits (!primary) := by
  have hown := h.once primary hmode
  cases hother : s.pendingTx (!primary) with
  | none =>
    rw [released_of_none h hmode hother]
    refine ⟨⟨fun primary' hof => absurd hof.symm (of_ne_idle primary'), fun _ primary' => ?_⟩,
      ?_, ?_⟩
    · by_cases hsame : primary' = primary
      · rw [hsame]
        exact hown
      · rw [show primary' = !primary by cases primary <;> cases primary' <;> simp_all]
        exact hother
    · exact awaits_eq_false.mpr ⟨(of_ne_idle primary).symm, hown⟩
    · have hleft : (s.freed primary success).awaits (!primary) = false :=
        awaits_eq_false.mpr ⟨(of_ne_idle _).symm, hother⟩
      have hright : s.awaits (!primary) = false :=
        awaits_eq_false.mpr ⟨hmode ▸ of_ne_of_not primary, hother⟩
      rw [hleft, hright]
  | some size =>
    rw [released_of_some h hmode hother]
    refine ⟨⟨fun primary' _ => ?_, fun hidle => absurd hidle (of_ne_idle _)⟩, ?_, ?_⟩
    · by_cases hsame : primary' = primary
      · rw [hsame]
        cases primary <;> exact hown
      · rw [show primary' = !primary by cases primary <;> cases primary' <;> simp_all]
        cases primary <;> rfl
    · refine awaits_eq_false.mpr ⟨?_, ?_⟩
      · exact (of_ne_of_not primary).symm
      · cases primary <;> exact hown
    · simp [awaits, hother]

/-! ## Steady states -/

/-- A link that is offline has nothing to do. -/
structure AtRest (s : LinkContext) : Prop where
  txMode : s.txMode = .idle
  pPriState : s.pPriState = .idle
  pSecState : s.pSecState = .notReset
  pSegments : s.pSegments = none
  keepAliveTimeout : s.keepAliveTimeout = false
  keepAliveTimer : s.keepAliveTimer = none
  isRemoteReset : s.isRemoteReset = false

/-- The stations fit the transmitter, the response timer and the message that is being sent. -/
structure Steady (s : LinkContext) : Prop where
  orderly : Orderly s
  primary : s.pPriState.isTransmitWait = s.awaits true
  secondary : s.pSecState.isTransmitWait = s.awaits false
  timer : s.rspTimeoutTimer.isSome = s.pPriState.isResponseWait
  segments : s.pPriState.sendsSegments = true → s.pSegments.isSome = true
  offline : s.isOnline = false → AtRest s

theorem steady_initial (config : LinkConfig) (now : Int) : Steady (initial config now) where
  orderly := ⟨fun _ _ => by cases ‹Bool› <;> rfl, fun _ primary => by cases primary <;> rfl⟩
  primary := rfl
  secondary := rfl
  timer := rfl
  segments := nofun
  offline := fun _ => ⟨rfl, rfl, rfl, rfl, rfl, rfl, rfl⟩

theorem PriState.isResponseWait_of_isTransmitWait {state : PriState}
    (h : state.isTransmitWait = true) : state.isResponseWait = false := by
  cases state <;> first | rfl | cases h

theorem PriState.isTransmitWait_of_isResponseWait {state : PriState}
    (h : state.isResponseWait = true) : state.isTransmitWait = false := by
  cases state <;> first | rfl | cases h

theorem SecState.isTransmitWait_reporting (state : SecState) :
    state.reporting.isTransmitWait = true := by
  cases state <;> rfl

/-- The primary station may go on: it has no frame and awaits no reply. -/
structure Ready (s : LinkContext) : Prop where
  orderly : Orderly s
  unqueued : s.awaits true = false
  secondary : s.pSecState.isTransmitWait = s.awaits false
  timer : s.rspTimeoutTimer = none
  online : s.isOnline = true

/-- States with the same transmitter, response timer and secondary station. -/
structure SameSlots (s s' : LinkContext) : Prop where
  txMode : s'.txMode = s.txMode
  pendingTx : ∀ primary, s'.pendingTx primary = s.pendingTx primary
  pSecState : s'.pSecState = s.pSecState
  rspTimeoutTimer : s'.rspTimeoutTimer = s.rspTimeoutTimer
  isOnline : s'.isOnline = s.isOnline

theorem SameSlots.awaits (h : SameSlots s s') (primary : Bool) :
    s'.awaits primary = s.awaits primary := by
  rw [LinkContext.awaits, h.txMode, h.pendingTx, LinkContext.awaits]

theorem SameSlots.orderly (h : SameSlots s s') (ho : Orderly s) : Orderly s' where
  once primary hmode := (h.pendingTx primary).trans (ho.once primary (h.txMode ▸ hmode))
  free hidle primary := (h.pendingTx primary).trans (ho.free (h.txMode ▸ hidle) primary)

theorem Ready.of_same (h : Ready s) (hs : SameSlots s s') : Ready s' where
  orderly := hs.orderly h.orderly
  unqueued := (hs.awaits true).trans h.unqueued
  secondary := by rw [hs.pSecState, hs.awaits, h.secondary]
  timer := hs.rspTimeoutTimer.trans h.timer
  online := hs.isOnline.trans h.online

/-- A frame of the primary station is transmitted. -/
theorem Ready.transmits (h : Ready s) (state : PriState) (hwait : state.isTransmitWait = true)
    (hsegments : state.sendsSegments = true → s.pSegments.isSome = true) (frame : Format) :
    Steady ((s.transmit true frame).setPriState state) := by
  have hkeeps := s.keepsStations_transmit true frame
  have horderly := orderly_transmit h.orderly h.unqueued frame
  refine ⟨⟨horderly.once, horderly.free⟩, ?_, ?_, ?_, ?_, ?_⟩
  · exact hwait.trans (s.awaits_transmit true frame).symm
  · change (s.transmit true frame).pSecState.isTransmitWait = (s.transmit true frame).awaits !true
    rw [hkeeps.pSecState, awaits_transmit_not]
    exact h.secondary
  · change (s.transmit true frame).rspTimeoutTimer.isSome = state.isResponseWait
    rw [hkeeps.rspTimeoutTimer, h.timer, PriState.isResponseWait_of_isTransmitWait hwait]
    rfl
  · intro hsends
    exact (congrArg Option.isSome hkeeps.pSegments).trans (hsegments hsends)
  · intro hoff
    exact absurd (hkeeps.isOnline.symm.trans hoff) (by rw [h.online]; exact Bool.noConfusion)

/-- The primary station is done. -/
theorem Ready.idles (h : Ready s) : Steady (s.setPriState .idle) where
  orderly := ⟨h.orderly.once, h.orderly.free⟩
  primary := h.unqueued.symm
  secondary := h.secondary
  timer := congrArg Option.isSome h.timer
  segments := nofun
  offline hoff := absurd (h.online.symm.trans hoff) Bool.noConfusion

/-- The primary station awaits a reply. -/
theorem Ready.waits (h : Ready s) (state : PriState) (hwait : state.isResponseWait = true)
    (hsegments : state.sendsSegments = true → s.pSegments.isSome = true) :
    Steady (s.startResponseTimer.setPriState state) where
  orderly := ⟨h.orderly.once, h.orderly.free⟩
  primary := (PriState.isTransmitWait_of_isResponseWait hwait).trans h.unqueued.symm
  secondary := h.secondary
  timer := hwait.symm
  segments := hsegments
  offline hoff := absurd (h.online.symm.trans hoff) Bool.noConfusion

/-- The primary station as it is, with what it fits. -/
structure Unchanged (s s' : LinkContext) : Prop extends SameSlots s s' where
  pPriState : s'.pPriState = s.pPriState
  pSegments : s'.pSegments = s.pSegments
  keepAliveTimeout : s.isOnline = false → s'.keepAliveTimeout = s.keepAliveTimeout
  keepAliveTimer : s.isOnline = false → s'.keepAliveTimer = s.keepAliveTimer
  isRemoteReset : s.isOnline = false → s'.isRemoteReset = s.isRemoteReset

/-- What leaves the primary station alone keeps a link steady. -/
theorem Steady.of_unchanged (h : Steady s) (hs : Unchanged s s') : Steady s' where
  orderly := hs.orderly h.orderly
  primary := by rw [hs.pPriState, hs.awaits, h.primary]
  secondary := by rw [hs.pSecState, hs.awaits, h.secondary]
  timer := by rw [hs.rspTimeoutTimer, hs.pPriState, h.timer]
  segments := by
    rw [hs.pPriState, hs.pSegments]
    exact h.segments
  offline := by
    intro hoff
    have hoff' : s.isOnline = false := hs.isOnline.symm.trans hoff
    have hrest := h.offline hoff'
    exact ⟨hs.txMode.trans hrest.txMode, hs.pPriState.trans hrest.pPriState,
      hs.pSecState.trans hrest.pSecState, hs.pSegments.trans hrest.pSegments,
      (hs.keepAliveTimeout hoff').trans hrest.keepAliveTimeout,
      (hs.keepAliveTimer hoff').trans hrest.keepAliveTimer,
      (hs.isRemoteReset hoff').trans hrest.isRemoteReset⟩

/-- An idle primary station may go on. -/
theorem Steady.ready_idle (h : Steady s) (honline : s.isOnline = true)
    (hidle : s.pPriState = .idle) : Ready s where
  orderly := h.orderly
  unqueued := by rw [← h.primary, hidle]; rfl
  secondary := h.secondary
  timer := by
    have htimer := h.timer
    rw [hidle] at htimer
    exact Option.isSome_eq_false_iff.mp htimer |> Option.isNone_iff_eq_none.mp
  online := honline

/-- The reply that is awaited has come, or the timer has expired. -/
theorem Steady.ready_cancelTimer (h : Steady s) (honline : s.isOnline = true)
    (hwait : s.pPriState.isResponseWait = true) : Ready s.cancelTimer where
  orderly := ⟨h.orderly.once, h.orderly.free⟩
  unqueued := by
    have hprimary := h.primary
    rw [PriState.isTransmitWait_of_isResponseWait hwait] at hprimary
    exact hprimary.symm
  secondary := h.secondary
  timer := rfl
  online := honline

theorem Steady.isResponseWait_of_isDue (h : Steady s) (hdue : s.isDue s.rspTimeoutTimer = true) :
    s.pPriState.isResponseWait = true := by
  rw [← h.timer]
  cases htimer : s.rspTimeoutTimer with
  | none => rw [htimer] at hdue; cases hdue
  | some _ => rfl

/-- The frame of the primary station has been transmitted. -/
theorem Steady.ready_released (h : Steady s) (honline : s.isOnline = true)
    (hmode : s.txMode = .primary) (success : Bool) : Ready (s.released true success) := by
  have hkeeps := s.keepsStations_released true success
  obtain ⟨horderly, hown, hother⟩ :=
    orderly_released h.orderly (show s.txMode = .of true from hmode) success
  have hwait : s.pPriState.isTransmitWait = true := by
    rw [h.primary]
    simp [awaits, hmode, LinkTransmitMode.of]
  refine ⟨horderly, hown, ?_, ?_, hkeeps.isOnline.trans honline⟩
  · rw [hkeeps.pSecState, h.secondary]
    exact hother.symm
  · have htimer := h.timer
    rw [PriState.isResponseWait_of_isTransmitWait hwait] at htimer
    rw [hkeeps.rspTimeoutTimer]
    exact Option.isNone_iff_eq_none.mp (Option.isSome_eq_false_iff.mp htimer)

/-- A reply of the secondary station is transmitted. -/
theorem Steady.answers (h : Steady s) (honline : s.isOnline = true)
    (hfree : s.pSecState.isTransmitWait = false) (state : SecState)
    (hwait : state.isTransmitWait = true) (frame : Format) :
    Steady ((s.transmit false frame).setSecState state) := by
  have hkeeps := s.keepsStations_transmit false frame
  have hnot : s.awaits false = false := by rw [← h.secondary, hfree]
  have horderly := orderly_transmit h.orderly hnot frame
  refine ⟨⟨horderly.once, horderly.free⟩, ?_, ?_, ?_, ?_, ?_⟩
  · change (s.transmit false frame).pPriState.isTransmitWait =
      (s.transmit false frame).awaits !false
    rw [hkeeps.pPriState, awaits_transmit_not]
    exact h.primary
  · exact hwait.trans (s.awaits_transmit false frame).symm
  · change (s.transmit false frame).rspTimeoutTimer.isSome =
      (s.transmit false frame).pPriState.isResponseWait
    rw [hkeeps.rspTimeoutTimer, hkeeps.pPriState]
    exact h.timer
  · change (s.transmit false frame).pPriState.sendsSegments = true →
      (s.transmit false frame).pSegments.isSome = true
    rw [hkeeps.pPriState, hkeeps.pSegments]
    exact h.segments
  · intro hoff
    exact absurd (hkeeps.isOnline.symm.trans hoff) (by rw [honline]; exact Bool.noConfusion)

/-- The reply of the secondary station has been transmitted. -/
theorem Steady.answered (h : Steady s) (honline : s.isOnline = true) (hmode : s.txMode = .secondary)
    (success : Bool) :
    Steady ((s.released false success).setSecState s.pSecState.transmitted) := by
  have hkeeps := s.keepsStations_released false success
  obtain ⟨horderly, hown, hother⟩ :=
    orderly_released h.orderly (show s.txMode = .of false from hmode) success
  refine ⟨⟨horderly.once, horderly.free⟩, ?_, ?_, ?_, ?_, ?_⟩
  · change (s.released false success).pPriState.isTransmitWait =
      (s.released false success).awaits !false
    rw [hkeeps.pPriState, hother]
    exact h.primary
  · change s.pSecState.transmitted.isTransmitWait = (s.released false success).awaits false
    rw [hown]
    cases s.pSecState <;> rfl
  · change (s.released false success).rspTimeoutTimer.isSome =
      (s.released false success).pPriState.isResponseWait
    rw [hkeeps.rspTimeoutTimer, hkeeps.pPriState]
    exact h.timer
  · change (s.released false success).pPriState.sendsSegments = true →
      (s.released false success).pSegments.isSome = true
    rw [hkeeps.pPriState, hkeeps.pSegments]
    exact h.segments
  · intro hoff
    exact absurd (hkeeps.isOnline.symm.trans hoff) (by rw [honline]; exact Bool.noConfusion)

/-! ## What an event does -/

/-- A frame that the link takes. -/
def admits (s : LinkContext) (header : LinkHeaderFields) : Bool :=
  s.isOnline && s.validate header.isFromMaster header.src header.dest

/-- A frame of a kind that the state of its station handles. -/
def Uses (s : LinkContext) (header : LinkHeaderFields) : Prop :=
  match header.func with
  | .secAck => s.pPriState = .resetLinkWait ∨ s.pPriState = .confDataWait
  | .secNack | .secLinkStatus | .secNotSupported => s.pPriState.isResponseWait = true
  | .priTestLinkStates => s.pSecState = .reset ∧ s.nextReadFCB = header.fcb
  | .priResetLinkStates | .priRequestLinkStatus => s.pSecState.isTransmitWait = false
  | .priConfirmedUserData => s.pSecState = .reset
  | .priUnconfirmedUserData => True
  | .invalid => False

/-- The events that have no effect, but for the messages that are taken. -/
def Ignores (s : LinkContext) : Event → Prop
  | .lowerLayerUp _ => s.isOnline = true
  | .lowerLayerDown => s.isOnline = false
  | .send _ => True
  | .frame header _ _ => s.admits header = false
  | .transmitResult _ => s.txMode = .idle
  | .responseTimeout => s.isDue s.rspTimeoutTimer = false
  | .keepAliveTimeout => s.isDue s.keepAliveTimer = false
  | .runPosted _ => s.callbacks = []
  | .elapse _ => False

/-- The link has come online. -/
def wakened (s : LinkContext) : LinkContext :=
  ((({ s with isOnline := true, lastMessageTimestamp := s.now }).note
    .up).startKeepAliveTimer).postStatusCallback .unreset

/-- The link has gone offline. -/
def shut (s : LinkContext) : LinkContext :=
  (({ s with
    isOnline := false
    keepAliveTimeout := false
    isRemoteReset := false
    pSegments := none
    txMode := .idle
    pendingPriTx := none
    pendingSecTx := none
    rspTimeoutTimer := none
    keepAliveTimer := none
    pPriState := .idle
    pSecState := .notReset }).note .down).postStatusCallback .unreset

/-- The keep-alive timer has expired and runs again. -/
def rearmed (s : LinkContext) : LinkContext :=
  if s.config.keepAliveTimeout ≤ s.now - s.lastMessageTimestamp then
    { s with
      keepAliveTimer := some (s.now + s.config.keepAliveTimeout)
      lastMessageTimestamp := s.now
      keepAliveTimeout := true }
  else { s with keepAliveTimer := some (s.now + s.config.keepAliveTimeout) }

/-- A message is over. -/
def completed (s : LinkContext) (success : Bool) : LinkContext :=
  (s.completeSendOperation success).setPriState .idle

/-- What an event does before the link starts what has been waiting. -/
inductive Handles (s : LinkContext) : Event → LinkContext → Prop where
  | ignored (e : Event) (h : s.Ignores e) : Handles s e s
  | up (sends : List Segments) (hoff : s.isOnline = false) :
      Handles s (.lowerLayerUp sends) s.wakened
  | down (honline : s.isOnline = true) : Handles s .lowerLayerDown s.shut
  | elapsed (milliseconds : Nat) :
      Handles s (.elapse milliseconds) { s with now := s.now + milliseconds }
  | ran (sends : List Segments) (callback : Posted) (rest : List Posted)
      (hcallbacks : s.callbacks = callback :: rest) :
      Handles s (.runPosted sends) (({ s with callbacks := rest }).note (.ran callback))
  | keepAlive (hdue : s.isDue s.keepAliveTimer = true) : Handles s .keepAliveTimeout s.rearmed
  /- The result of a transmission. -/
  | awaiting (state : PriState) (hmode : s.txMode = .primary)
      (hstate : s.pPriState.awaited = some state) :
      Handles s (.transmitResult true)
        ((s.released true true).startResponseTimer.setPriState state)
  | notSent (hmode : s.txMode = .primary)
      (hstate : s.pPriState = .linkResetTransmitWait ∨ s.pPriState = .confUserDataTransmitWait) :
      Handles s (.transmitResult false) ((s.released true false).completed false)
  | notRequested (hmode : s.txMode = .primary)
      (hstate : s.pPriState = .requestLinkStatusTransmitWait) :
      Handles s (.transmitResult false) ((s.released true false).setPriState .idle)
  | unconfirmedNext (success : Bool) (current next : UserData) (rest : List UserData)
      (hmode : s.txMode = .primary) (hstate : s.pPriState = .sendUnconfirmedTransmitWait)
      (hsegments : s.pSegments = some ⟨current, next :: rest⟩) :
      Handles s (.transmitResult success)
        ((((s.released true success).setSegments ⟨next, rest⟩).transmit true
          (unconfirmedFrame s.config next)).setPriState .sendUnconfirmedTransmitWait)
  | unconfirmedLast (success : Bool) (current : UserData) (hmode : s.txMode = .primary)
      (hstate : s.pPriState = .sendUnconfirmedTransmitWait)
      (hsegments : s.pSegments = some ⟨current, []⟩) :
      Handles s (.transmitResult success) ((s.released true success).completed success)
  | answered (success : Bool) (hmode : s.txMode = .secondary) :
      Handles s (.transmitResult success)
        ((s.released false success).setSecState s.pSecState.transmitted)
  /- A frame of the secondary station of the other end. -/
  | heard (header : LinkHeaderFields) (userdata : List UInt8) (sends : List Segments)
      (hadmits : s.admits header = true) (hunused : ¬ s.Uses header) :
      Handles s (.frame header userdata sends) s.heard
  | ackReset (header : LinkHeaderFields) (userdata : List UInt8) (sends : List Segments)
      (segments : Segments) (hadmits : s.admits header = true) (hfunc : header.func = .secAck)
      (hstate : s.pPriState = .resetLinkWait) (hsegments : s.pSegments = some segments) :
      Handles s (.frame header userdata sends)
        (((s.resetHeard.transmit true (confirmedFrame s.config true
          segments.current)).postStatusCallback .reset).setPriState .confUserDataTransmitWait)
  | ackNext (header : LinkHeaderFields) (userdata : List UInt8) (sends : List Segments)
      (current next : UserData) (rest : List UserData) (hadmits : s.admits header = true)
      (hfunc : header.func = .secAck) (hstate : s.pPriState = .confDataWait)
      (hsegments : s.pSegments = some ⟨current, next :: rest⟩) :
      Handles s (.frame header userdata sends)
        (((s.ackHeard.setSegments ⟨next, rest⟩).transmit true
          (confirmedFrame s.config (!s.nextWriteFCB) next)).setPriState .confUserDataTransmitWait)
  | ackLast (header : LinkHeaderFields) (userdata : List UInt8) (sends : List Segments)
      (current : UserData) (hadmits : s.admits header = true) (hfunc : header.func = .secAck)
      (hstate : s.pPriState = .confDataWait) (hsegments : s.pSegments = some ⟨current, []⟩) :
      Handles s (.frame header userdata sends)
        (s.ackHeard.completed true)
  | refused (header : LinkHeaderFields) (userdata : List UInt8) (sends : List Segments)
      (hadmits : s.admits header = true) (hack : header.func ≠ .secAck)
      (hfunc : header.func.isPrimary = false)
      (hstate : s.pPriState = .resetLinkWait ∨
        s.pPriState = .confDataWait ∧ header.func ≠ .secNack) :
      Handles s (.frame header userdata sends) (s.heard.cancelTimer.completed false)
  | nackFull (header : LinkHeaderFields) (userdata : List UInt8) (sends : List Segments)
      (hadmits : s.admits header = true) (hfunc : header.func = .secNack)
      (hstate : s.pPriState = .confDataWait) :
      Handles s (.frame header userdata sends)
        ((s.heard.postStatusCallback .unreset).cancelTimer.completed false)
  | nackReset (header : LinkHeaderFields) (userdata : List UInt8) (sends : List Segments)
      (hadmits : s.admits header = true) (hfunc : header.func = .secNack)
      (hstate : s.pPriState = .confDataWait) :
      Handles s (.frame header userdata sends)
        (((s.heard.postStatusCallback .unreset).resetRetry.cancelTimer.transmit true
          (resetFrame s.config)).setPriState .linkResetTransmitWait)
  | reported (header : LinkHeaderFields) (userdata : List UInt8) (sends : List Segments)
      (hadmits : s.admits header = true) (hfunc : header.func = .secLinkStatus)
      (hstate : s.pPriState = .requestLinkStatusWait) :
      Handles s (.frame header userdata sends)
        ((s.heard.cancelTimer.note .keepAliveSuccess).setPriState .idle)
  | notReported (header : LinkHeaderFields) (userdata : List UInt8) (sends : List Segments)
      (hadmits : s.admits header = true) (hfunc : header.func.isPrimary = false)
      (hstate : s.pPriState = .requestLinkStatusWait) :
      Handles s (.frame header userdata sends) (s.heard.cancelTimer.setPriState .idle)
  /- A frame of the primary station of the other end. -/
  | tested (header : LinkHeaderFields) (userdata : List UInt8) (sends : List Segments)
      (hadmits : s.admits header = true) (hfunc : header.func = .priTestLinkStates)
      (hstate : s.pSecState = .reset) (hfcb : s.nextReadFCB = header.fcb) :
      Handles s (.frame header userdata sends)
        ((s.heard.transmit false (ackFrame s.config)).toggleReadFCB.setSecState .transmitWaitReset)
  | reset (header : LinkHeaderFields) (userdata : List UInt8) (sends : List Segments)
      (hadmits : s.admits header = true) (hfunc : header.func = .priResetLinkStates)
      (hstate : s.pSecState.isTransmitWait = false) :
      Handles s (.frame header userdata sends)
        ((s.heard.transmit false (ackFrame s.config)).resetReadFCB.setSecState .transmitWaitReset)
  | requested (header : LinkHeaderFields) (userdata : List UInt8) (sends : List Segments)
      (hadmits : s.admits header = true) (hfunc : header.func = .priRequestLinkStatus)
      (hstate : s.pSecState.isTransmitWait = false) :
      Handles s (.frame header userdata sends)
        ((s.heard.transmit false (linkStatusFrame s.config)).setSecState s.pSecState.reporting)
  | accepted (header : LinkHeaderFields) (userdata : List UInt8) (sends : List Segments)
      (hadmits : s.admits header = true) (hfunc : header.func = .priConfirmedUserData)
      (hstate : s.pSecState = .reset) (hfcb : s.nextReadFCB = header.fcb) :
      Handles s (.frame header userdata sends)
        (((s.heard.transmit false (ackFrame s.config)).toggleReadFCB.note
          (.received userdata)).setSecState .transmitWaitReset)
  | repeated (header : LinkHeaderFields) (userdata : List UInt8) (sends : List Segments)
      (hadmits : s.admits header = true) (hfunc : header.func = .priConfirmedUserData)
      (hstate : s.pSecState = .reset) (hfcb : s.nextReadFCB ≠ header.fcb) :
      Handles s (.frame header userdata sends)
        ((s.heard.transmit false (ackFrame s.config)).setSecState .transmitWaitReset)
  | unconfirmed (header : LinkHeaderFields) (userdata : List UInt8) (sends : List Segments)
      (hadmits : s.admits header = true) (hfunc : header.func = .priUnconfirmedUserData) :
      Handles s (.frame header userdata sends) (s.heard.note (.received userdata))
  /- The response timer. -/
  | resetRetried (hdue : s.isDue s.rspTimeoutTimer = true) (hretry : 0 < s.numRetryRemaining)
      (hstate : s.pPriState = .resetLinkWait) :
      Handles s .responseTimeout
        ((s.retried.transmit true (resetFrame s.config)).setPriState .linkResetTransmitWait)
  | dataRetried (segments : Segments) (hdue : s.isDue s.rspTimeoutTimer = true)
      (hretry : 0 < s.numRetryRemaining) (hstate : s.pPriState = .confDataWait)
      (hsegments : s.pSegments = some segments) :
      Handles s .responseTimeout
        ((s.retried.transmit true
          (confirmedFrame s.config s.nextWriteFCB segments.current)).setPriState
            .confUserDataTransmitWait)
  | resetExpired (hdue : s.isDue s.rspTimeoutTimer = true) (hretry : s.numRetryRemaining = 0)
      (hstate : s.pPriState = .resetLinkWait) :
      Handles s .responseTimeout (s.expired.completed false)
  | dataExpired (hdue : s.isDue s.rspTimeoutTimer = true) (hretry : s.numRetryRemaining = 0)
      (hstate : s.pPriState = .confDataWait) :
      Handles s .responseTimeout ((s.expired.postStatusCallback .unreset).completed false)
  | requestExpired (hdue : s.isDue s.rspTimeoutTimer = true)
      (hstate : s.pPriState = .requestLinkStatusWait) :
      Handles s .responseTimeout ((s.expired.note .keepAliveFailure).setPriState .idle)

/-- An event is handled, and then what has been waiting is started. -/
def Handled (s : LinkContext) (e : Event) (s' : LinkContext) : Prop :=
  ∃ s₁, Handles s e s₁ ∧ Starts s₁ s'

/-! ## The handlers -/

theorem withSegments_some {segments : Segments} (h : s.pSegments = some segments)
    (f : Segments → LinkContext × PriState) : s.withSegments f = f segments := by
  unfold withSegments
  rw [h]

theorem Steady.exists_segments (h : Steady s) (hsends : s.pPriState.sendsSegments = true) :
    ∃ segments, s.pSegments = some segments :=
  Option.isSome_iff_exists.mp (h.segments hsends)

/-- A reply that is not awaited is not used. -/
theorem PriState.not_isResponseWait {state : PriState} (hreset : state ≠ .resetLinkWait)
    (hdata : state ≠ .confDataWait) (hrequest : state ≠ .requestLinkStatusWait) :
    ¬ state.isResponseWait = true := by
  cases state with
  | resetLinkWait => exact absurd rfl hreset
  | confDataWait => exact absurd rfl hdata
  | requestLinkStatusWait => exact absurd rfl hrequest
  | _ => exact nofun

theorem SecState.not_free {state : SecState} (hnotReset : state ≠ .notReset)
    (hreset : state ≠ .reset) : ¬ state.isTransmitWait = false := by
  cases state with
  | notReset => exact absurd rfl hnotReset
  | reset => exact absurd rfl hreset
  | _ => exact nofun

section Frames

variable {header : LinkHeaderFields} {userdata : List UInt8} {sends : List Segments}

/-- An acknowledgement ends the wait for a reply, or it is only heard. -/
theorem handles_onAck (h : Steady s) (hadmits : s.admits header = true)
    (hfunc : header.func = .secAck) :
    Handles s (.frame header userdata sends) (storePri s.heard.onAck) := by
  unfold onAck
  split
  next hstate =>
    have hstate' : s.pPriState = .resetLinkWait := hstate
    obtain ⟨segments, hsegments⟩ := h.exists_segments (by rw [hstate']; rfl)
    rw [withSegments_some (s := s.heard) hsegments]
    exact .ackReset header userdata sends segments hadmits hfunc hstate' hsegments
  next hstate =>
    have hstate' : s.pPriState = .confDataWait := hstate
    obtain ⟨⟨current, rest⟩, hsegments⟩ := h.exists_segments (by rw [hstate']; rfl)
    rw [withSegments_some (s := s.heard) hsegments]
    cases rest with
    | nil => exact .ackLast header userdata sends current hadmits hfunc hstate' hsegments
    | cons next rest =>
      exact .ackNext header userdata sends current next rest hadmits hfunc hstate' hsegments
  next hreset hdata =>
    refine .heard header userdata sends hadmits ?_
    rw [Uses, hfunc]
    rintro (hstate | hstate)
    · exact hreset hstate
    · exact hdata hstate

/-- A refusal ends the wait for a reply, or it is only heard. -/
theorem handles_onNack (hadmits : s.admits header = true) (hfunc : header.func = .secNack) :
    Handles s (.frame header userdata sends) (storePri (s.heard.onNack header.fcvdfc)) := by
  unfold onNack
  split
  next hstate =>
    exact .refused header userdata sends hadmits (by rw [hfunc]; exact nofun)
      (by rw [hfunc]; rfl) (.inl hstate)
  next hstate =>
    dsimp only
    split
    · exact .nackFull header userdata sends hadmits hfunc hstate
    · exact .nackReset header userdata sends hadmits hfunc hstate
  next hstate =>
    exact .notReported header userdata sends hadmits (by rw [hfunc]; rfl) hstate
  next hreset hdata hrequest =>
    refine .heard header userdata sends hadmits ?_
    rw [Uses, hfunc]
    exact PriState.not_isResponseWait hreset hdata hrequest

/-- The status of the other end ends the wait for a reply, or it is only heard. -/
theorem handles_onLinkStatus (hadmits : s.admits header = true)
    (hfunc : header.func = .secLinkStatus) :
    Handles s (.frame header userdata sends) (storePri s.heard.onLinkStatus) := by
  unfold onLinkStatus
  split
  next hstate =>
    exact .refused header userdata sends hadmits (by rw [hfunc]; exact nofun)
      (by rw [hfunc]; rfl) (.inl hstate)
  next hstate =>
    exact .refused header userdata sends hadmits (by rw [hfunc]; exact nofun)
      (by rw [hfunc]; rfl) (.inr ⟨hstate, by rw [hfunc]; exact nofun⟩)
  next hstate => exact .reported header userdata sends hadmits hfunc hstate
  next hreset hdata hrequest =>
    refine .heard header userdata sends hadmits ?_
    rw [Uses, hfunc]
    exact PriState.not_isResponseWait hreset hdata hrequest

/-- The answer that a function is not known ends the wait for a reply, or it is only heard. -/
theorem handles_onNotSupported (hadmits : s.admits header = true)
    (hfunc : header.func = .secNotSupported) :
    Handles s (.frame header userdata sends) (storePri s.heard.onNotSupported) := by
  unfold onNotSupported
  split
  next hstate =>
    exact .refused header userdata sends hadmits (by rw [hfunc]; exact nofun)
      (by rw [hfunc]; rfl) (.inl hstate)
  next hstate =>
    exact .refused header userdata sends hadmits (by rw [hfunc]; exact nofun)
      (by rw [hfunc]; rfl) (.inr ⟨hstate, by rw [hfunc]; exact nofun⟩)
  next hstate =>
    exact .notReported header userdata sends hadmits (by rw [hfunc]; rfl) hstate
  next hreset hdata hrequest =>
    refine .heard header userdata sends hadmits ?_
    rw [Uses, hfunc]
    exact PriState.not_isResponseWait hreset hdata hrequest

/-- A test is acknowledged when its frame count bit is the one that is expected, or it is only
heard. -/
theorem handles_onTestLinkStatus (hadmits : s.admits header = true)
    (hfunc : header.func = .priTestLinkStates) :
    Handles s (.frame header userdata sends) (storeSec (s.heard.onTestLinkStatus header.fcb)) := by
  unfold onTestLinkStatus
  split
  next hstate =>
    split
    next hfcb => exact .tested header userdata sends hadmits hfunc hstate hfcb
    next hfcb =>
      unfold storeSec
      rw [setSecState_self (s := s.heard) hstate]
      refine .heard header userdata sends hadmits ?_
      rw [Uses, hfunc]
      exact fun huse => hfcb huse.2
  next hnot =>
    refine .heard header userdata sends hadmits ?_
    rw [Uses, hfunc]
    exact fun huse => hnot huse.1

/-- A reset is acknowledged unless the secondary station is transmitting a reply. -/
theorem handles_onResetLinkStates (hadmits : s.admits header = true)
    (hfunc : header.func = .priResetLinkStates) :
    Handles s (.frame header userdata sends) (storeSec s.heard.onResetLinkStates) := by
  unfold onResetLinkStates
  split
  next hstate =>
    have hstate' : s.pSecState = .notReset := hstate
    exact .reset header userdata sends hadmits hfunc (by rw [hstate']; rfl)
  next hstate =>
    have hstate' : s.pSecState = .reset := hstate
    exact .reset header userdata sends hadmits hfunc (by rw [hstate']; rfl)
  next hnotReset hreset =>
    refine .heard header userdata sends hadmits ?_
    rw [Uses, hfunc]
    exact SecState.not_free hnotReset hreset

/-- A request for the status is answered unless the secondary station is transmitting a reply. -/
theorem handles_onRequestLinkStatus (hadmits : s.admits header = true)
    (hfunc : header.func = .priRequestLinkStatus) :
    Handles s (.frame header userdata sends) (storeSec s.heard.onRequestLinkStatus) := by
  unfold onRequestLinkStatus
  split
  next hstate =>
    have hstate' : s.pSecState = .notReset := hstate
    have hcase := Handles.requested header userdata sends hadmits hfunc (by rw [hstate']; rfl)
    rwa [hstate'] at hcase
  next hstate =>
    have hstate' : s.pSecState = .reset := hstate
    have hcase := Handles.requested header userdata sends hadmits hfunc (by rw [hstate']; rfl)
    rwa [hstate'] at hcase
  next hnotReset hreset =>
    refine .heard header userdata sends hadmits ?_
    rw [Uses, hfunc]
    exact SecState.not_free hnotReset hreset

/-- The messages that the upper layer sends while it takes data are taken after the frame. -/
theorem handled_onConfirmedUserData (hadmits : s.admits header = true)
    (hfunc : header.func = .priConfirmedUserData) :
    Handled s (.frame header userdata sends)
      (storeSec (s.heard.onConfirmedUserData header.fcb userdata sends)) := by
  have hfcb : s.heard.queueAck.nextReadFCB = s.nextReadFCB :=
    (s.heard.keepsStations_transmit false (ackFrame s.config)).nextReadFCB
  unfold onConfirmedUserData
  split
  next hstate =>
    dsimp only
    rw [hfcb]
    split
    next hsame =>
      have hsends := starts_sends
        (((s.heard.transmit false (ackFrame s.config)).toggleReadFCB.note
          (.received userdata)).setSecState .transmitWaitReset) sends
      rw [sends_setSecState] at hsends
      exact ⟨_, .accepted header userdata sends hadmits hfunc hstate hsame, hsends⟩
    next hother =>
      exact ⟨_, .repeated header userdata sends hadmits hfunc hstate hother, .refl⟩
  next hnot =>
    refine ⟨_, .heard header userdata sends hadmits ?_, .refl⟩
    rw [Uses, hfunc]
    exact hnot

theorem onFrameContext_eq (hadmits : s.admits header = true) :
    s.onFrameContext header userdata sends = s.heard.handleFrame header userdata sends := by
  obtain ⟨honline, hvalid⟩ := Bool.and_eq_true_iff.mp hadmits
  unfold onFrameContext
  rw [if_neg (by simp [honline]), if_neg (by simp [hvalid])]
  rfl

/-- A frame is handled, and then the link starts what has been waiting. -/
theorem handled_onFrame (h : Steady s) :
    Handled s (.frame header userdata sends) (s.onFrame header userdata sends) := by
  cases hadmits : s.admits header with
  | false =>
    have heq : s.onFrame header userdata sends = s := by
      unfold onFrame onFrameContext
      cases honline : s.isOnline with
      | false => rfl
      | true =>
        have hvalid : s.validate header.isFromMaster header.src header.dest = false := by
          simpa [admits, honline] using hadmits
        rw [hvalid]
        rfl
    rw [heq]
    exact ⟨s, .ignored _ hadmits, .refl⟩
  | true =>
    have hstart : ∀ {s₁}, Handles s (.frame header userdata sends) s₁ →
        Handled s (.frame header userdata sends) s₁.tryStartTransmission :=
      fun h₁ => ⟨_, h₁, starts_tryStartTransmission _⟩
    unfold onFrame
    rw [onFrameContext_eq hadmits]
    unfold handleFrame
    split
    next hfunc =>
      split at hfunc
      next hfunc' => cases hfunc; exact hstart (handles_onAck h hadmits hfunc')
      next hfunc' => cases hfunc; exact hstart (handles_onNack hadmits hfunc')
      next hfunc' => cases hfunc; exact hstart (handles_onLinkStatus hadmits hfunc')
      next hfunc' => cases hfunc; exact hstart (handles_onNotSupported hadmits hfunc')
      next hfunc' => cases hfunc; exact hstart (handles_onTestLinkStatus hadmits hfunc')
      next hfunc' => cases hfunc; exact hstart (handles_onResetLinkStates hadmits hfunc')
      next hfunc' => cases hfunc; exact hstart (handles_onRequestLinkStatus hadmits hfunc')
      next hfunc' =>
        cases hfunc
        obtain ⟨s₁, h₁, hs⟩ :=
          @handled_onConfirmedUserData s header userdata sends hadmits hfunc'
        exact ⟨s₁, h₁, hs.trans (starts_tryStartTransmission _)⟩
      next hfunc' =>
        cases hfunc
        exact ⟨_, .unconfirmed header userdata sends hadmits hfunc',
          (starts_sends _ sends).trans (starts_tryStartTransmission _)⟩
      next => cases hfunc
    next hfunc =>
      split at hfunc <;> cases hfunc
      next hinvalid =>
        refine ⟨_, .heard header userdata sends hadmits ?_, .refl⟩
        rw [Uses, hinvalid]
        exact id

end Frames

/-- The frame of one of the stations has been transmitted. -/
theorem handled_onTransmitResult (h : Steady s) (success : Bool) :
    Handled s (.transmitResult success) (s.onTransmitResult success) := by
  unfold onTransmitResult onTransmitResultContext
  cases hmode : s.txMode with
  | idle => exact ⟨s, .ignored _ hmode, .refl⟩
  | secondary =>
    refine ⟨_, .answered success hmode, ?_⟩
    have hkeeps := s.keepsStations_released false success
    have heq : storeSec (s.released false success).onSecTransmitResult =
        (s.released false success).setSecState s.pSecState.transmitted := by
      unfold onSecTransmitResult storeSec
      rw [hkeeps.pSecState]
      cases s.pSecState <;> rfl
    rw [← heq]
    exact starts_tryStartTransmission _
  | primary =>
    have hkeeps := s.keepsStations_released true success
    have hwait : s.pPriState.isTransmitWait = true := by
      rw [h.primary]
      simp [awaits, hmode, LinkTransmitMode.of]
    suffices hcase : Handles s (.transmitResult success)
        (storePri ((s.released true success).onPriTransmitResult success)) from
      ⟨_, hcase, starts_tryStartTransmission _⟩
    unfold onPriTransmitResult
    rw [hkeeps.pPriState]
    cases hstate : s.pPriState with
    | sendUnconfirmedTransmitWait =>
      obtain ⟨⟨current, rest⟩, hsegments⟩ := h.exists_segments (by rw [hstate]; rfl)
      dsimp only
      rw [withSegments_some (hkeeps.pSegments.trans hsegments)]
      cases rest with
      | nil => exact .unconfirmedLast success current hmode hstate hsegments
      | cons next rest =>
        have hcase := Handles.unconfirmedNext success current next rest hmode hstate hsegments
        rw [← hkeeps.config] at hcase
        exact hcase
    | linkResetTransmitWait =>
      cases success with
      | true => exact .awaiting .resetLinkWait hmode (by rw [hstate]; rfl)
      | false => exact .notSent hmode (.inl hstate)
    | confUserDataTransmitWait =>
      cases success with
      | true => exact .awaiting .confDataWait hmode (by rw [hstate]; rfl)
      | false => exact .notSent hmode (.inr hstate)
    | requestLinkStatusTransmitWait =>
      cases success with
      | true => exact .awaiting .requestLinkStatusWait hmode (by rw [hstate]; rfl)
      | false => exact .notRequested hmode hstate
    | idle | resetLinkWait | confDataWait | requestLinkStatusWait =>
      rw [hstate] at hwait
      cases hwait

/-- Nothing was answered in time: the frame is sent again, or the link gives up. -/
theorem handled_onResponseTimeout (h : Steady s) (hdue : s.isDue s.rspTimeoutTimer = true) :
    Handled s .responseTimeout s.onResponseTimeout := by
  have hwait := h.isResponseWait_of_isDue hdue
  suffices hcase : Handles s .responseTimeout (storePri s.expired.onTimeout) from
    ⟨_, hcase, starts_tryStartTransmission _⟩
  have hretry : s.expired.retry =
      if 0 < s.numRetryRemaining then (s.retried, true) else (s.expired, false) := rfl
  unfold onTimeout
  split
  next hstate =>
    rw [hretry]
    by_cases hleft : 0 < s.numRetryRemaining
    · rw [if_pos hleft]
      exact .resetRetried hdue hleft hstate
    · rw [if_neg hleft]
      exact .resetExpired hdue (UInt32.le_zero_iff.mp (UInt32.not_lt.mp hleft)) hstate
  next hstate =>
    rw [hretry]
    have hstate' : s.pPriState = .confDataWait := hstate
    obtain ⟨segments, hsegments⟩ := h.exists_segments (by rw [hstate']; rfl)
    by_cases hleft : 0 < s.numRetryRemaining
    · rw [if_pos hleft]
      dsimp only
      rw [withSegments_some (s := s.retried) hsegments]
      exact .dataRetried segments hdue hleft hstate' hsegments
    · rw [if_neg hleft]
      exact .dataExpired hdue (UInt32.le_zero_iff.mp (UInt32.not_lt.mp hleft)) hstate'
  next hstate => exact .requestExpired hdue hstate
  next hreset hdata hrequest =>
    refine absurd hwait ?_
    cases hstate : s.pPriState with
    | resetLinkWait => exact absurd hstate hreset
    | confDataWait => exact absurd hstate hdata
    | requestLinkStatusWait => exact absurd hstate hrequest
    | _ => exact nofun

theorem handled_onLowerLayerUp (sends : List Segments) :
    Handled s (.lowerLayerUp sends) (s.onLowerLayerUp sends) := by
  unfold onLowerLayerUp
  split
  next honline => exact ⟨s, .ignored _ honline, .refl⟩
  next hoff => exact ⟨_, .up sends (eq_false_of_ne_true hoff), starts_sends _ sends⟩

theorem handled_onLowerLayerDown : Handled s .lowerLayerDown s.onLowerLayerDown := by
  unfold onLowerLayerDown
  split
  next honline => exact ⟨_, .down honline, .refl⟩
  next hoff => exact ⟨s, .ignored _ (eq_false_of_ne_true hoff), .refl⟩

theorem onKeepAliveTimeout_eq (s : LinkContext) :
    s.onKeepAliveTimeout = s.rearmed.tryStartTransmission := by
  unfold onKeepAliveTimeout rearmed
  dsimp only
  split <;> rfl

theorem handled_runPosted (sends : List Segments) :
    Handled s (.runPosted sends) (s.runPosted sends) := by
  unfold runPosted
  split
  next hnone => exact ⟨s, .ignored _ hnone, .refl⟩
  next status rest hcallbacks => exact ⟨_, .ran sends _ rest hcallbacks, .refl⟩
  next success rest hcallbacks => exact ⟨_, .ran sends _ rest hcallbacks, starts_sends _ sends⟩

/-- Every event of a steady link is handled in one of these ways. -/
theorem handled_step (h : Steady s) (e : Event) : Handled s e (s.step e) := by
  cases e with
  | lowerLayerUp sends => exact handled_onLowerLayerUp sends
  | lowerLayerDown => exact handled_onLowerLayerDown
  | send segments => exact ⟨s, .ignored _ trivial, s.starts_send segments⟩
  | frame header userdata sends => exact handled_onFrame h
  | transmitResult success => exact handled_onTransmitResult h success
  | responseTimeout =>
    change Handled s _ (if s.isDue s.rspTimeoutTimer then s.onResponseTimeout else s)
    split
    next hdue => exact handled_onResponseTimeout h hdue
    next hnot => exact ⟨s, .ignored _ (eq_false_of_ne_true hnot), .refl⟩
  | keepAliveTimeout =>
    change Handled s _ (if s.isDue s.keepAliveTimer then s.onKeepAliveTimeout else s)
    split
    next hdue =>
      rw [onKeepAliveTimeout_eq]
      exact ⟨_, .keepAlive hdue, starts_tryStartTransmission _⟩
    next hnot => exact ⟨s, .ignored _ (eq_false_of_ne_true hnot), .refl⟩
  | runPosted sends => exact handled_runPosted sends
  | elapse milliseconds => exact ⟨_, .elapsed milliseconds, .refl⟩

/-! ## Links stay steady -/

theorem Steady.online (h : Steady s) (hrest : ¬ AtRest s) : s.isOnline = true := by
  by_contra hoff
  exact hrest (h.offline (eq_false_of_ne_true hoff))

theorem Steady.online_of_primary (h : Steady s) (hmode : s.txMode ≠ .idle) : s.isOnline = true :=
  h.online fun hrest => hmode hrest.txMode

theorem Steady.online_of_state (h : Steady s) (hstate : s.pPriState ≠ .idle) :
    s.isOnline = true :=
  h.online fun hrest => hstate hrest.pPriState

theorem Steady.ready_expired (h : Steady s) (hdue : s.isDue s.rspTimeoutTimer = true) :
    Ready s.expired := by
  have hwait := h.isResponseWait_of_isDue hdue
  refine h.ready_cancelTimer (h.online_of_state ?_) hwait
  intro hidle
  rw [hidle] at hwait
  cases hwait

/-- What is started keeps a link steady. -/
theorem Steady.start (h : Steady s) (hs : Start s s') : Steady s' := by
  cases hs with
  | take segments honline hfree =>
    refine ⟨⟨h.orderly.once, h.orderly.free⟩, h.primary, h.secondary, h.timer, fun _ => rfl, ?_⟩
    exact fun hoff => absurd (honline.symm.trans hoff) Bool.noConfusion
  | requestStatus hidle hdue =>
    have honline := h.online fun hrest => by
      rw [hrest.keepAliveTimeout] at hdue
      cases hdue
    have hready : Ready ({ s with keepAliveTimeout := false }) :=
      (h.ready_idle honline hidle).of_same ⟨rfl, fun _ => rfl, rfl, rfl, rfl⟩
    have hsteady := hready.transmits .requestLinkStatusTransmitWait rfl nofun
      (requestFrame s.config)
    exact hsteady.of_unchanged ⟨⟨rfl, fun _ => rfl, rfl, rfl, rfl⟩, rfl, rfl, fun _ => rfl,
      fun _ => rfl, fun _ => rfl⟩
  | confirmed segments hidle hsegments hconfirms hreset =>
    have honline := h.online fun hrest => by
      rw [hrest.pSegments] at hsegments
      cases hsegments
    have hready : Ready (s.resetRetry) :=
      (h.ready_idle honline hidle).of_same ⟨rfl, fun _ => rfl, rfl, rfl, rfl⟩
    exact hready.transmits _ rfl (fun _ => Option.isSome_of_eq_some hsegments) _
  | reset segments hidle hsegments hconfirms hreset =>
    have honline := h.online fun hrest => by
      rw [hrest.pSegments] at hsegments
      cases hsegments
    have hready : Ready (s.resetRetry) :=
      (h.ready_idle honline hidle).of_same ⟨rfl, fun _ => rfl, rfl, rfl, rfl⟩
    exact hready.transmits _ rfl (fun _ => Option.isSome_of_eq_some hsegments) _
  | unconfirmed segments hidle hsegments hconfirms =>
    have honline := h.online fun hrest => by
      rw [hrest.pSegments] at hsegments
      cases hsegments
    exact (h.ready_idle honline hidle).transmits _ rfl
      (fun _ => Option.isSome_of_eq_some hsegments) _

theorem Ready.completes (h : Ready s) (success : Bool) : Steady (s.completed success) := by
  have hready : Ready (s.completeSendOperation success) :=
    h.of_same ⟨rfl, fun _ => rfl, rfl, rfl, rfl⟩
  exact hready.idles

theorem admits_online {header : LinkHeaderFields} (h : s.admits header = true) :
    s.isOnline = true := (Bool.and_eq_true_iff.mp h).1

theorem unchanged_heard (s : LinkContext) : Unchanged s s.heard :=
  ⟨⟨rfl, fun _ => rfl, rfl, rfl, rfl⟩, rfl, rfl, fun _ => rfl, fun _ => rfl, fun _ => rfl⟩

/-- A valid frame that ends the wait for a reply. -/
theorem Steady.ready_heard (h : Steady s) {header : LinkHeaderFields}
    (hadmits : s.admits header = true) (hwait : s.pPriState.isResponseWait = true) :
    Ready s.heard.cancelTimer :=
  (h.of_unchanged s.unchanged_heard).ready_cancelTimer (admits_online hadmits) hwait

/-- What an event does before anything is started keeps a link steady. -/
theorem Steady.handles {e : Event} (h : Steady s) (hs : Handles s e s') : Steady s' := by
  cases hs with
  | ignored => exact h
  | up sends hoff =>
    have hrest := h.offline hoff
    refine ⟨⟨h.orderly.once, h.orderly.free⟩, h.primary, h.secondary, h.timer, h.segments, ?_⟩
    exact fun honline => Bool.noConfusion honline
  | down honline => exact ⟨⟨fun primary _ => by cases primary <;> rfl,
      fun _ primary => by cases primary <;> rfl⟩, rfl, rfl, rfl, nofun,
      fun _ => ⟨rfl, rfl, rfl, rfl, rfl, rfl, rfl⟩⟩
  | elapsed milliseconds =>
    exact h.of_unchanged ⟨⟨rfl, fun _ => rfl, rfl, rfl, rfl⟩, rfl, rfl, fun _ => rfl, fun _ => rfl,
      fun _ => rfl⟩
  | ran sends callback rest hcallbacks =>
    exact h.of_unchanged ⟨⟨rfl, fun _ => rfl, rfl, rfl, rfl⟩, rfl, rfl, fun _ => rfl, fun _ => rfl,
      fun _ => rfl⟩
  | keepAlive hdue =>
    have honline := h.online fun hrest => by
      rw [hrest.keepAliveTimer] at hdue
      cases hdue
    have hoff : s.isOnline ≠ false := by rw [honline]; exact nofun
    unfold rearmed
    split
    · exact h.of_unchanged ⟨⟨rfl, fun _ => rfl, rfl, rfl, rfl⟩, rfl, rfl,
        fun hoff' => absurd hoff' hoff, fun hoff' => absurd hoff' hoff, fun _ => rfl⟩
    · exact h.of_unchanged ⟨⟨rfl, fun _ => rfl, rfl, rfl, rfl⟩, rfl, rfl,
        fun _ => rfl, fun hoff' => absurd hoff' hoff, fun _ => rfl⟩
  | awaiting state hmode hstate =>
    have honline := h.online_of_primary (by rw [hmode]; exact nofun)
    refine (h.ready_released honline hmode true).waits state ?_ ?_
    · revert hstate
      cases s.pPriState <;> intro hstate <;> cases hstate <;> rfl
    · intro hsends
      rw [(s.keepsStations_released true true).pSegments]
      refine h.segments ?_
      revert hstate hsends
      cases s.pPriState <;> intro hstate hsends <;> cases hstate <;> first | rfl | exact hsends
  | notSent hmode hstate =>
    have honline := h.online_of_primary (by rw [hmode]; exact nofun)
    exact (h.ready_released honline hmode false).completes false
  | notRequested hmode hstate =>
    have honline := h.online_of_primary (by rw [hmode]; exact nofun)
    exact (h.ready_released honline hmode false).idles
  | unconfirmedNext success current next rest hmode hstate hsegments =>
    have honline := h.online_of_primary (by rw [hmode]; exact nofun)
    have hready : Ready ((s.released true success).setSegments ⟨next, rest⟩) :=
      (h.ready_released honline hmode success).of_same ⟨rfl, fun _ => rfl, rfl, rfl, rfl⟩
    exact hready.transmits _ rfl (fun _ => rfl) _
  | unconfirmedLast success current hmode hstate hsegments =>
    have honline := h.online_of_primary (by rw [hmode]; exact nofun)
    exact (h.ready_released honline hmode success).completes success
  | answered success hmode =>
    exact h.answered (h.online_of_primary (by rw [hmode]; exact nofun)) hmode success
  | heard header userdata sends hadmits hunused => exact h.of_unchanged s.unchanged_heard
  | ackReset header userdata sends segments hadmits hfunc hstate hsegments =>
    have hready : Ready s.resetHeard :=
      (h.ready_heard hadmits (by rw [hstate]; rfl)).of_same ⟨rfl, fun _ => rfl, rfl, rfl, rfl⟩
    have hsteady := hready.transmits .confUserDataTransmitWait rfl
      (fun _ => Option.isSome_of_eq_some hsegments) (confirmedFrame s.config true segments.current)
    exact hsteady.of_unchanged ⟨⟨rfl, fun _ => rfl, rfl, rfl, rfl⟩, rfl, rfl, fun _ => rfl,
      fun _ => rfl, fun _ => rfl⟩
  | ackNext header userdata sends current next rest hadmits hfunc hstate hsegments =>
    have hready : Ready (s.ackHeard.setSegments ⟨next, rest⟩) :=
      (h.ready_heard hadmits (by rw [hstate]; rfl)).of_same ⟨rfl, fun _ => rfl, rfl, rfl, rfl⟩
    exact hready.transmits _ rfl (fun _ => rfl) _
  | ackLast header userdata sends current hadmits hfunc hstate hsegments =>
    have hready : Ready s.ackHeard :=
      (h.ready_heard hadmits (by rw [hstate]; rfl)).of_same ⟨rfl, fun _ => rfl, rfl, rfl, rfl⟩
    exact hready.completes true
  | refused header userdata sends hadmits hack hfunc hstate =>
    refine (h.ready_heard hadmits ?_).completes false
    rcases hstate with hstate | ⟨hstate, _⟩ <;> rw [hstate] <;> rfl
  | nackFull header userdata sends hadmits hfunc hstate =>
    have hready : Ready ((s.heard.postStatusCallback .unreset).cancelTimer) :=
      (h.ready_heard hadmits (by rw [hstate]; rfl)).of_same ⟨rfl, fun _ => rfl, rfl, rfl, rfl⟩
    exact hready.completes false
  | nackReset header userdata sends hadmits hfunc hstate =>
    have hready : Ready ((s.heard.postStatusCallback .unreset).resetRetry.cancelTimer) :=
      (h.ready_heard hadmits (by rw [hstate]; rfl)).of_same ⟨rfl, fun _ => rfl, rfl, rfl, rfl⟩
    exact hready.transmits _ rfl (fun _ => h.segments (by rw [hstate]; rfl)) _
  | reported header userdata sends hadmits hfunc hstate =>
    have hready : Ready (s.heard.cancelTimer.note .keepAliveSuccess) :=
      (h.ready_heard hadmits (by rw [hstate]; rfl)).of_same ⟨rfl, fun _ => rfl, rfl, rfl, rfl⟩
    exact hready.idles
  | notReported header userdata sends hadmits hfunc hstate =>
    exact (h.ready_heard hadmits (by rw [hstate]; rfl)).idles
  | tested header userdata sends hadmits hfunc hstate hfcb =>
    have hsteady := (h.of_unchanged s.unchanged_heard).answers (admits_online hadmits)
      (congrArg SecState.isTransmitWait hstate) .transmitWaitReset rfl
      (ackFrame s.config)
    generalize s.heard.transmit false (ackFrame s.config) = x at hsteady ⊢
    exact hsteady.of_unchanged ⟨⟨rfl, fun _ => rfl, rfl, rfl, rfl⟩, rfl, rfl, fun _ => rfl,
      fun _ => rfl, fun _ => rfl⟩
  | reset header userdata sends hadmits hfunc hstate =>
    have hsteady := (h.of_unchanged s.unchanged_heard).answers (admits_online hadmits) hstate
      .transmitWaitReset rfl (ackFrame s.config)
    generalize s.heard.transmit false (ackFrame s.config) = x at hsteady ⊢
    exact hsteady.of_unchanged ⟨⟨rfl, fun _ => rfl, rfl, rfl, rfl⟩, rfl, rfl, fun _ => rfl,
      fun _ => rfl, fun _ => rfl⟩
  | requested header userdata sends hadmits hfunc hstate =>
    have hheard := h.of_unchanged s.unchanged_heard
    exact hheard.answers (admits_online hadmits) hstate _
      (SecState.isTransmitWait_reporting _) _
  | accepted header userdata sends hadmits hfunc hstate hfcb =>
    have hsteady := (h.of_unchanged s.unchanged_heard).answers (admits_online hadmits)
      (congrArg SecState.isTransmitWait hstate) .transmitWaitReset rfl
      (ackFrame s.config)
    generalize s.heard.transmit false (ackFrame s.config) = x at hsteady ⊢
    exact hsteady.of_unchanged ⟨⟨rfl, fun _ => rfl, rfl, rfl, rfl⟩, rfl, rfl, fun _ => rfl,
      fun _ => rfl, fun _ => rfl⟩
  | repeated header userdata sends hadmits hfunc hstate hfcb =>
    have hheard := h.of_unchanged s.unchanged_heard
    exact hheard.answers (admits_online hadmits) (congrArg SecState.isTransmitWait hstate) _ rfl _
  | unconfirmed header userdata sends hadmits hfunc =>
    exact h.of_unchanged ⟨⟨rfl, fun _ => rfl, rfl, rfl, rfl⟩, rfl, rfl, fun _ => rfl, fun _ => rfl,
      fun _ => rfl⟩
  | resetRetried hdue hretry hstate =>
    have hready : Ready (s.retried) :=
      (h.ready_expired hdue).of_same ⟨rfl, fun _ => rfl, rfl, rfl, rfl⟩
    exact hready.transmits _ rfl (fun _ => h.segments (by rw [hstate]; rfl)) _
  | dataRetried segments hdue hretry hstate hsegments =>
    have hready : Ready (s.retried) :=
      (h.ready_expired hdue).of_same ⟨rfl, fun _ => rfl, rfl, rfl, rfl⟩
    exact hready.transmits _ rfl (fun _ => h.segments (by rw [hstate]; rfl)) _
  | resetExpired hdue hretry hstate => exact (h.ready_expired hdue).completes false
  | dataExpired hdue hretry hstate =>
    have hready : Ready (s.expired.postStatusCallback .unreset) :=
      (h.ready_expired hdue).of_same ⟨rfl, fun _ => rfl, rfl, rfl, rfl⟩
    exact hready.completes false
  | requestExpired hdue hstate =>
    have hready : Ready (s.expired.note .keepAliveFailure) :=
      (h.ready_expired hdue).of_same ⟨rfl, fun _ => rfl, rfl, rfl, rfl⟩
    exact hready.idles

theorem Steady.starts (h : Steady s) (hs : Starts s s') : Steady s' := by
  induction hs with
  | refl => exact h
  | tail _ hstart ih => exact ih.start hstart

/-- Every step keeps a link steady. -/
theorem Steady.step (h : Steady s) (e : Event) : Steady (s.step e) := by
  obtain ⟨s₁, hhandles, hstarts⟩ := handled_step h e
  exact (h.handles hhandles).starts hstarts

end LinkContext
end Link
end Dnp3
