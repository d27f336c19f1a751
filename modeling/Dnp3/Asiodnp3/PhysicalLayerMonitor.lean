import Mathlib.Init

/-!
# The physical layer and its monitor

The flags in which a physical layer keeps what it is doing, and the state machine of the monitor
that opens and closes it.  A state of the monitor answers a request with its next state and an
action on the layer or on the open timer; the notifications of the layer it answers with its next
state, or refuses.

The functions of `PhysicalLayer` set and clear the flags as the base class of the source does, and
leave them alone where it refuses.  `Agrees` says what the flags are in each state of the monitor:
which of opening, open and closing may be set.  It is kept by everything that the monitor and the
layer do with each other.  From it the router's model knows that an open layer is reported to the
contexts, and that nothing is written to a layer that is closing.
-/

namespace Dnp3
namespace Asiodnp3

/-- `PhysicalLayerBase::State`. -/
structure PhysicalLayer where
  isOpen : Bool
  isOpening : Bool
  isReading : Bool
  isWriting : Bool
  isClosing : Bool
  deriving DecidableEq, Repr

namespace PhysicalLayer

/-- The constructed layer. -/
def closed : PhysicalLayer :=
  { isOpen := false, isOpening := false, isReading := false, isWriting := false,
    isClosing := false }

/-- The layer does nothing. -/
def isClosed (p : PhysicalLayer) : Bool :=
  !(p.isOpening || p.isOpen || p.isClosing || p.isReading || p.isWriting)

/-- The layer may be opened. -/
def canOpen (p : PhysicalLayer) : Bool := p.isClosed

/-- The layer may be closed. -/
def canClose (p : PhysicalLayer) : Bool := (p.isOpen || p.isOpening) && !p.isClosing

/-- The layer may be read from. -/
def canRead (p : PhysicalLayer) : Bool := p.isOpen && !p.isClosing && !p.isReading

/-- The layer may be written to. -/
def canWrite (p : PhysicalLayer) : Bool := p.isOpen && !p.isClosing && !p.isWriting

/-- A callback of the operating system is to come. -/
def callbacksPending (p : PhysicalLayer) : Bool := p.isOpening || p.isReading || p.isWriting

/-- A closing layer without pending callbacks is closed. -/
def checkForClose (p : PhysicalLayer) : PhysicalLayer × Bool :=
  if p.isClosing && !p.callbacksPending then ({ p with isClosing := false, isOpen := false }, true)
  else (p, false)

/-- Open the layer, if it may be. -/
def beginOpen (p : PhysicalLayer) : PhysicalLayer :=
  if p.canOpen then { p with isOpening := true } else p

/-- Close the layer, if it may be. -/
def startClose (p : PhysicalLayer) : PhysicalLayer :=
  if !p.isClosing && p.canClose then { p with isClosing := true } else p

/-- Read from the layer, if it may be. -/
def beginRead (p : PhysicalLayer) : PhysicalLayer :=
  if p.canRead then { p with isReading := true } else p

theorem startClose_isOpen (p : PhysicalLayer) : p.startClose.isOpen = p.isOpen := by
  unfold startClose
  split <;> rfl

theorem startClose_isOpening (p : PhysicalLayer) : p.startClose.isOpening = p.isOpening := by
  unfold startClose
  split <;> rfl

/-- A layer that is open is closing when its closing is started. -/
theorem startClose_isClosing {p : PhysicalLayer} (h : p.isOpen = true) :
    p.startClose.isClosing = true := by
  unfold startClose canClose
  rw [h]
  cases hclosing : p.isClosing with
  | true => exact hclosing
  | false => rfl

theorem beginRead_isOpen (p : PhysicalLayer) : p.beginRead.isOpen = p.isOpen := by
  unfold beginRead
  split <;> rfl

theorem beginRead_isOpening (p : PhysicalLayer) : p.beginRead.isOpening = p.isOpening := by
  unfold beginRead
  split <;> rfl

theorem beginRead_isClosing (p : PhysicalLayer) : p.beginRead.isClosing = p.isClosing := by
  unfold beginRead
  split <;> rfl

theorem beginRead_isWriting (p : PhysicalLayer) : p.beginRead.isWriting = p.isWriting := by
  unfold beginRead
  split <;> rfl

theorem beginOpen_isClosing (p : PhysicalLayer) : p.beginOpen.isClosing = p.isClosing := by
  unfold beginOpen
  split <;> rfl

theorem beginOpen_isWriting (p : PhysicalLayer) : p.beginOpen.isWriting = p.isWriting := by
  unfold beginOpen
  split <;> rfl

theorem beginOpen_isOpen (p : PhysicalLayer) : p.beginOpen.isOpen = p.isOpen := by
  unfold beginOpen
  split <;> rfl

end PhysicalLayer

/-- What a monitor says of its channel. -/
inductive ChannelState where
  | closed
  | opening
  | opened
  | waiting
  | shutdown
  deriving DecidableEq, Repr

/-- The states of the monitor. -/
inductive MonitorState where
  | init
  | suspended
  | opening
  | openingOne
  | openingClosing
  | openingStopping
  | openingSuspending
  | opened
  | openOne
  | waiting
  | waitingOne
  | closing
  | suspending
  | shutingDown
  | shutdown
  deriving DecidableEq, Repr

/-- What a state does when it has changed. -/
inductive MonitorAction where
  | none
  | startOpenTimer
  | cancelOpenTimer
  | beginOpen
  | beginClose
  deriving DecidableEq, Repr

namespace MonitorState

/-- What the state looks like from outside. -/
def getState : MonitorState → ChannelState
  | init | suspended | closing | suspending | shutingDown => .closed
  | opening | openingOne | openingClosing | openingStopping | openingSuspending => .opening
  | opened | openOne => .opened
  | waiting | waitingOne => .waiting
  | shutdown => .shutdown

/-- The channel is opened, and opened again whenever it closes. -/
def onStartRequest : MonitorState → MonitorState × MonitorAction
  | init | suspended => (opening, .beginOpen)
  | openingOne => (opening, .none)
  | openingSuspending => (openingClosing, .none)
  | openOne => (opened, .none)
  | waitingOne => (waiting, .none)
  | suspending => (closing, .none)
  | state => (state, .none)

/-- The channel is closed, and stays so until it is asked for. -/
def onSuspendRequest : MonitorState → MonitorState × MonitorAction
  | opening | openingOne => (openingSuspending, .beginClose)
  | openingClosing => (openingSuspending, .none)
  | opened | openOne => (suspending, .beginClose)
  | waiting | waitingOne => (suspended, .cancelOpenTimer)
  | closing => (suspending, .none)
  | state => (state, .none)

/-- The channel is closed for good. -/
def onShutdownRequest : MonitorState → MonitorState × MonitorAction
  | init | suspended => (shutdown, .none)
  | opening | openingOne => (openingStopping, .beginClose)
  | openingClosing | openingSuspending => (openingStopping, .none)
  | opened | openOne => (shutingDown, .beginClose)
  | waiting | waitingOne => (shutdown, .cancelOpenTimer)
  | closing | suspending => (shutingDown, .none)
  | state => (state, .none)

/-- The next attempt to open begins. -/
def onOpenTimeout : MonitorState → Option (MonitorState × MonitorAction)
  | waiting => some (opening, .beginOpen)
  | waitingOne => some (openingOne, .beginOpen)
  | _ => none

/-- The layer could not be opened: wait, or give up. -/
def onOpenFailure : MonitorState → Option (MonitorState × MonitorAction)
  | opening | openingClosing => some (waiting, .startOpenTimer)
  | openingOne | openingSuspending => some (suspended, .none)
  | openingStopping => some (shutdown, .none)
  | _ => none

/-- The layer is open. -/
def onLayerOpen : MonitorState → Option MonitorState
  | opening => some opened
  | openingOne => some openOne
  | _ => none

/-- The layer is closed: wait to open it again, or not. -/
def onLayerClose : MonitorState → Option (MonitorState × MonitorAction)
  | opened | closing => some (waiting, .startOpenTimer)
  | openOne | suspending => some (suspended, .none)
  | shutingDown => some (shutdown, .none)
  | _ => none

/-- What the flags of the layer are in a state of the monitor. -/
def Agrees : MonitorState → PhysicalLayer → Prop
  | init, p | suspended, p | waiting, p | waitingOne, p | shutdown, p => p = .closed
  | opening, p | openingOne, p => p = { PhysicalLayer.closed with isOpening := true }
  | openingClosing, p | openingStopping, p | openingSuspending, p =>
    p = { PhysicalLayer.closed with isOpening := true, isClosing := true }
  | opened, p | openOne, p => p.isOpen = true ∧ p.isOpening = false
  | closing, p | suspending, p | shutingDown, p =>
    p.isOpen = true ∧ p.isOpening = false ∧ p.isClosing = true

/-! ## What the answers keep -/

/-- Reads and writes of an open layer do not matter to the monitor. -/
theorem Agrees.of_open {state : MonitorState} {p q : PhysicalLayer} (h : state.Agrees p)
    (hopen : p.isOpen = true) (hopen' : q.isOpen = true) (hopening : q.isOpening = p.isOpening)
    (hclosing : p.isClosing = true → q.isClosing = true) : state.Agrees q := by
  cases state with
  | opened => exact ⟨hopen', hopening.trans h.2⟩
  | openOne => exact ⟨hopen', hopening.trans h.2⟩
  | closing => exact ⟨hopen', hopening.trans h.2.1, hclosing h.2.2⟩
  | suspending => exact ⟨hopen', hopening.trans h.2.1, hclosing h.2.2⟩
  | shutingDown => exact ⟨hopen', hopening.trans h.2.1, hclosing h.2.2⟩
  | _ =>
    rw [h] at hopen
    exact absurd hopen Bool.false_ne_true

theorem Agrees.isOpening {state : MonitorState} {p : PhysicalLayer} (h : state.Agrees p)
    (hopen : p.isOpen = true) : p.isOpening = false := by
  cases state with
  | opened => exact h.2
  | openOne => exact h.2
  | closing => exact h.2.1
  | suspending => exact h.2.1
  | shutingDown => exact h.2.1
  | _ =>
    rw [h] at hopen
    exact absurd hopen Bool.false_ne_true

/-- Only an open layer reads and writes. -/
theorem Agrees.isOpen {state : MonitorState} {p : PhysicalLayer} (h : state.Agrees p)
    (hbusy : p.isReading = true ∨ p.isWriting = true) : p.isOpen = true := by
  cases state with
  | opened => exact h.1
  | openOne => exact h.1
  | closing => exact h.1
  | suspending => exact h.1
  | shutingDown => exact h.1
  | _ =>
    rw [h] at hbusy
    exact absurd hbusy (by decide)

/-- The channel is reported open only when the layer is. -/
theorem Agrees.isOpen_of_opened {state : MonitorState} {p : PhysicalLayer} (h : state.Agrees p)
    (hopened : state.getState = .opened) : p.isOpen = true := by
  cases state with
  | opened => exact h.1
  | openOne => exact h.1
  | _ => exact absurd hopened (by decide)

/-- A layer that is closing and no longer opening was open. -/
theorem Agrees.isOpen_of_closing {state : MonitorState} {p : PhysicalLayer} (h : state.Agrees p)
    (hclosing : p.isClosing = true) (hopening : p.isOpening = false) : p.isOpen = true := by
  cases state with
  | opened => exact h.1
  | openOne => exact h.1
  | closing => exact h.1
  | suspending => exact h.1
  | shutingDown => exact h.1
  | openingClosing | openingStopping | openingSuspending =>
    rw [h] at hopening
    exact absurd hopening.symm Bool.false_ne_true
  | _ =>
    rw [h] at hclosing
    exact absurd hclosing Bool.false_ne_true

/-- An open layer that closes leaves the monitor in a state that goes with a closed one. -/
theorem Agrees.onLayerClose {state : MonitorState} {p : PhysicalLayer} (h : state.Agrees p)
    (hopen : p.isOpen = true) : ∃ state' action, state.onLayerClose = some (state', action) ∧
      state'.Agrees .closed ∧ (action = .none ∨ action = .startOpenTimer) := by
  cases state with
  | opened => exact ⟨_, _, rfl, rfl, .inr rfl⟩
  | openOne => exact ⟨_, _, rfl, rfl, .inl rfl⟩
  | closing => exact ⟨_, _, rfl, rfl, .inr rfl⟩
  | suspending => exact ⟨_, _, rfl, rfl, .inl rfl⟩
  | shutingDown => exact ⟨_, _, rfl, rfl, .inl rfl⟩
  | _ =>
    rw [h] at hopen
    exact absurd hopen Bool.false_ne_true

/-- An answer goes with what its action makes of the layer. -/
def Answers (p : PhysicalLayer) : MonitorState × MonitorAction → Prop
  | (state, .beginClose) => state.Agrees p.startClose ∧ p.startClose.isClosing = true
  | (state, .beginOpen) => state.Agrees p.beginOpen
  | (state, _) => state.Agrees p

/-- The layer is closing or has nothing open. -/
def Dead (p : PhysicalLayer) : Prop :=
  p.isClosing = true ∨ p.isOpen = false ∧ p.isWriting = false

theorem Agrees.startClose {state : MonitorState} {p : PhysicalLayer} (h : state.Agrees p)
    (hopen : p.isOpen = true) : p.startClose.isOpen = true ∧ p.startClose.isOpening = false ∧
      p.startClose.isClosing = true :=
  ⟨p.startClose_isOpen.trans hopen, p.startClose_isOpening.trans (h.isOpening hopen),
    p.startClose_isClosing hopen⟩

theorem Agrees.onStartRequest {state : MonitorState} {p : PhysicalLayer} (h : state.Agrees p) :
    Answers p state.onStartRequest := by
  cases state with
  | init => rw [h]; rfl
  | suspended => rw [h]; rfl
  | _ => exact h

/-- After a request to suspend nothing is open that is not closing. -/
theorem Agrees.onSuspendRequest {state : MonitorState} {p : PhysicalLayer} (h : state.Agrees p) :
    Answers p state.onSuspendRequest ∧ (state.onSuspendRequest.2 = .beginClose ∨ Dead p) := by
  cases state with
  | opened => exact ⟨⟨h.startClose h.1, p.startClose_isClosing h.1⟩, .inl rfl⟩
  | openOne => exact ⟨⟨h.startClose h.1, p.startClose_isClosing h.1⟩, .inl rfl⟩
  | closing => exact ⟨h, .inr (.inl h.2.2)⟩
  | suspending => exact ⟨h, .inr (.inl h.2.2)⟩
  | shutingDown => exact ⟨h, .inr (.inl h.2.2)⟩
  | opening => rw [h]; exact ⟨⟨rfl, rfl⟩, .inl rfl⟩
  | openingOne => rw [h]; exact ⟨⟨rfl, rfl⟩, .inl rfl⟩
  | _ => rw [h]; exact ⟨rfl, .inr (.inr ⟨rfl, rfl⟩)⟩

theorem Agrees.onShutdownRequest {state : MonitorState} {p : PhysicalLayer} (h : state.Agrees p) :
    Answers p state.onShutdownRequest := by
  cases state with
  | opened => exact ⟨h.startClose h.1, p.startClose_isClosing h.1⟩
  | openOne => exact ⟨h.startClose h.1, p.startClose_isClosing h.1⟩
  | opening => rw [h]; exact ⟨rfl, rfl⟩
  | openingOne => rw [h]; exact ⟨rfl, rfl⟩
  | _ => exact h

theorem Agrees.onOpenTimeout {state state' : MonitorState} {action : MonitorAction}
    {p : PhysicalLayer} (h : state.Agrees p) (ha : state.onOpenTimeout = some (state', action)) :
    action = .beginOpen ∧ state'.Agrees p.beginOpen := by
  cases state with
  | waiting =>
    obtain ⟨rfl, rfl⟩ := Prod.mk.inj (Option.some.inj ha)
    rw [h]
    exact ⟨rfl, rfl⟩
  | waitingOne =>
    obtain ⟨rfl, rfl⟩ := Prod.mk.inj (Option.some.inj ha)
    rw [h]
    exact ⟨rfl, rfl⟩
  | _ => cases ha

/-- A layer that opens comes up in a monitor that waits for it, or fails to open in one that does
not. -/
theorem Agrees.onOpenCallback {state : MonitorState} {p : PhysicalLayer} (h : state.Agrees p)
    (hopening : p.isOpening = true) :
    (p = { PhysicalLayer.closed with isOpening := true } ∧ ∃ state',
      state.onLayerOpen = some state' ∧ state'.Agrees { PhysicalLayer.closed with isOpen := true } ∧
        ∃ failed action, state.onOpenFailure = some (failed, action) ∧ failed.Agrees .closed ∧
          action ≠ .beginOpen) ∨
      (p = { PhysicalLayer.closed with isOpening := true, isClosing := true } ∧
        ∃ failed action, state.onOpenFailure = some (failed, action) ∧ failed.Agrees .closed ∧
          action ≠ .beginOpen) := by
  cases state with
  | opening => exact .inl ⟨h, _, rfl, ⟨rfl, rfl⟩, _, _, rfl, rfl, by decide⟩
  | openingOne => exact .inl ⟨h, _, rfl, ⟨rfl, rfl⟩, _, _, rfl, rfl, by decide⟩
  | openingClosing => exact .inr ⟨h, _, _, rfl, rfl, by decide⟩
  | openingStopping => exact .inr ⟨h, _, _, rfl, rfl, by decide⟩
  | openingSuspending => exact .inr ⟨h, _, _, rfl, rfl, by decide⟩
  | opened => exact absurd (h.2.symm.trans hopening) Bool.false_ne_true
  | openOne => exact absurd (h.2.symm.trans hopening) Bool.false_ne_true
  | closing => exact absurd (h.2.1.symm.trans hopening) Bool.false_ne_true
  | suspending => exact absurd (h.2.1.symm.trans hopening) Bool.false_ne_true
  | shutingDown => exact absurd (h.2.1.symm.trans hopening) Bool.false_ne_true
  | _ =>
    rw [h] at hopening
    exact absurd hopening Bool.false_ne_true

end MonitorState
end Asiodnp3
end Dnp3
