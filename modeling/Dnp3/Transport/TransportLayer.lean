import Dnp3.Transport.Segmentation
import Dnp3.Library.Observer
import Dnp3.Library.Runs

/-!
# The transport layer

`TransportLayer` stands between the application and the link layer.  It hands one APDU at a time to
the link layer and passes the result on, and it passes up the APDUs its receiver puts together.

Wherever it calls the upper layer, that call is the last thing it does.  So what the upper layer
does in the call is an event of its own, behind the one that made the call.

`log` is not in the source.  It remembers the calls of the layers above and below.
-/

namespace Dnp3
namespace Transport

open Library

/-- A call of the layer above, or of the link layer. -/
inductive LayerEntry where
  /-- `Send` of the link layer, with the configured transmitter. -/
  | send (transmitter : TransportTx)
  | onReceive (apdu : List UInt8)
  | onSendResult (isSuccess : Bool)
  | onLowerLayerUp
  | onLowerLayerDown
  deriving DecidableEq

/-- The transport layer, with both channels and the calls it has made. -/
structure TransportLayer where
  /-- The layers above and below are attached. -/
  pUpperLayer : Bool
  pLinkLayer : Bool
  isOnline : Bool
  isSending : Bool
  receiver : TransportRx
  transmitter : TransportTx
  /-- How many calls of `OnSendResult(false)` are posted to the executor. -/
  posted : Nat
  log : List LayerEntry

namespace TransportLayer

/-- The layer as it is constructed, with the receiver's buffer. -/
def initial (rxBuffer : List UInt8) (pStatistics : Option StackStatistics) : TransportLayer where
  pUpperLayer := false
  pLinkLayer := false
  isOnline := false
  isSending := false
  receiver := .initial rxBuffer pStatistics
  transmitter := .initial pStatistics
  posted := 0
  log := []

/-- The application is attached. -/
def setAppLayer (t : TransportLayer) : TransportLayer := { t with pUpperLayer := true }

/-- The link layer is attached. -/
def setLinkLayer (t : TransportLayer) : TransportLayer := { t with pLinkLayer := true }

/-- Remember a call. -/
def note (t : TransportLayer) (e : LayerEntry) : TransportLayer := { t with log := t.log ++ [e] }

/-- The upper layer is called, if there is one. -/
def call (t : TransportLayer) (e : LayerEntry) : TransportLayer :=
  if t.pUpperLayer then t.note e else t

/-- The application is told later that its APDU was not sent. -/
def postFailure (t : TransportLayer) : TransportLayer := { t with posted := t.posted + 1 }

/-! ## Actions -/

/-- Send an APDU; an empty one fails, and one that comes during another is ignored. -/
def beginTransmit (t : TransportLayer) (apdu : List UInt8) : TransportLayer :=
  if t.isOnline then
    if apdu.isEmpty then t.postFailure
    else if t.isSending then t
    else
      let t := { t with isSending := true }
      if t.pLinkLayer then
        let t := { t with transmitter := t.transmitter.configure apdu }
        t.note (.send t.transmitter)
      else t.postFailure
  else t

/-! ## Callbacks of the link layer -/

/-- Take a segment, and pass an APDU up when it is complete. -/
def onReceive (t : TransportLayer) (tpdu : List UInt8) : TransportLayer :=
  if t.isOnline then
    let (apdu, receiver) := t.receiver.processReceive tpdu
    let t := { t with receiver := receiver }
    if apdu.isEmpty then t else t.call (.onReceive apdu)
  else t

/-- The APDU was sent, or was not. -/
def onSendResult (t : TransportLayer) (isSuccess : Bool) : TransportLayer :=
  if !t.isOnline then t
  else if !t.isSending then t
  else ({ t with isSending := false }).call (.onSendResult isSuccess)

/-- The layer is up. -/
def onLowerLayerUp (t : TransportLayer) : TransportLayer :=
  if t.isOnline then t else ({ t with isOnline := true }).call .onLowerLayerUp

/-- The layer is down; what was received is dropped. -/
def onLowerLayerDown (t : TransportLayer) : TransportLayer :=
  if !t.isOnline then t
  else ({ t with
    isOnline := false
    isSending := false
    receiver := t.receiver.reset }).call .onLowerLayerDown

/-- The executor runs a posted failure. -/
def runPosted (t : TransportLayer) : TransportLayer :=
  match t.posted with
  | 0 => t
  | posted + 1 => ({ t with posted := posted }).onSendResult false

/-- What can happen to a transport layer.  The link layer advances the transmitter it was handed
until all segments are sent. -/
inductive Event where
  | beginTransmit (apdu : List UInt8)
  | onReceive (tpdu : List UInt8)
  | onSendResult (isSuccess : Bool)
  | onLowerLayerUp
  | onLowerLayerDown
  | runPosted
  | advance (transmitter : TransportTx)

/-- An event takes place. -/
def step (t : TransportLayer) : Event → TransportLayer
  | .beginTransmit apdu => t.beginTransmit apdu
  | .onReceive tpdu => t.onReceive tpdu
  | .onSendResult isSuccess => t.onSendResult isSuccess
  | .onLowerLayerUp => t.onLowerLayerUp
  | .onLowerLayerDown => t.onLowerLayerDown
  | .runPosted => t.runPosted
  | .advance transmitter => { t with transmitter := transmitter }

end TransportLayer

/-! ## The calls of a layer -/

/-- What the calls so far say of the layer: it is online, it has handed over an APDU whose result
it does not know. -/
structure LayerBooks where
  online : Bool
  sending : Bool
  deriving DecidableEq

namespace LayerBooks

/-- The layer is down, and sends nothing. -/
def initial : LayerBooks := ⟨false, false⟩

/-- Nothing is called while the layer is offline; an APDU is handed over only when there is a
result for the one before, and a result is passed on only for an APDU that was handed over; no empty
APDU is handed over or passed up. -/
def Allows (b : LayerBooks) : LayerEntry → Prop
  | .send transmitter => b.online = true ∧ b.sending = false ∧ transmitter.apdu ≠ []
  | .onReceive apdu => b.online = true ∧ apdu ≠ []
  | .onSendResult _ => b.online = true ∧ b.sending = true
  | .onLowerLayerUp => b.online = false
  | .onLowerLayerDown => b.online = true

/-- The books with an entry read. -/
def next (b : LayerBooks) : LayerEntry → LayerBooks
  | .send _ => { b with sending := true }
  | .onReceive _ => b
  | .onSendResult _ => { b with sending := false }
  | .onLowerLayerUp => ⟨true, false⟩
  | .onLowerLayerDown => ⟨false, false⟩

end LayerBooks

/-- The observer of the layer, from the books and what they allow. -/
def layerObserver : Observer LayerBooks LayerEntry where
  allows := LayerBooks.Allows
  next := LayerBooks.next

namespace TransportLayer

variable {t : TransportLayer}

/-- The observer has read the calls of a layer between two others, and knows the layer. -/
structure Observed (t : TransportLayer) : Prop where
  attached : t.pUpperLayer = true ∧ t.pLinkLayer = true
  accepted : layerObserver.Accepts .initial t.log
  books : layerObserver.after .initial t.log = ⟨t.isOnline, t.isSending⟩
  offline : t.isOnline = false → t.isSending = false

/-- A call that is allowed. -/
theorem Observed.note {t' : TransportLayer} (h : Observed t) {e : LayerEntry}
    (hlayers : t'.pUpperLayer = t.pUpperLayer ∧ t'.pLinkLayer = t.pLinkLayer)
    (hlog : t'.log = t.log) (hallows : LayerBooks.Allows ⟨t.isOnline, t.isSending⟩ e)
    (hnext : LayerBooks.next ⟨t.isOnline, t.isSending⟩ e = ⟨t'.isOnline, t'.isSending⟩)
    (hoffline : t'.isOnline = false → t'.isSending = false) : Observed (t'.note e) := by
  refine ⟨⟨hlayers.1.trans h.attached.1, hlayers.2.trans h.attached.2⟩, ?_, ?_, hoffline⟩
  · change layerObserver.Accepts .initial (t'.log ++ [e])
    rw [hlog]
    refine layerObserver.accepts_concat h.accepted ?_
    rw [h.books]
    exact hallows
  · change layerObserver.after .initial (t'.log ++ [e]) = _
    rw [hlog, layerObserver.after_concat, h.books]
    exact hnext

theorem Observed.call {t' : TransportLayer} (h : Observed t) {e : LayerEntry}
    (hlayers : t'.pUpperLayer = t.pUpperLayer ∧ t'.pLinkLayer = t.pLinkLayer)
    (hlog : t'.log = t.log) (hallows : LayerBooks.Allows ⟨t.isOnline, t.isSending⟩ e)
    (hnext : LayerBooks.next ⟨t.isOnline, t.isSending⟩ e = ⟨t'.isOnline, t'.isSending⟩)
    (hoffline : t'.isOnline = false → t'.isSending = false) : Observed (t'.call e) := by
  rw [TransportLayer.call, if_pos (hlayers.1.trans h.attached.1)]
  exact h.note hlayers hlog hallows hnext hoffline

theorem Observed.beginTransmit (h : Observed t) (apdu : List UInt8) :
    Observed (t.beginTransmit apdu) := by
  unfold TransportLayer.beginTransmit
  split
  next honline =>
    split
    next => exact ⟨h.attached, h.accepted, h.books, h.offline⟩
    next hne =>
      split
      next => exact h
      next hidle =>
        have hfree : t.isSending = false := eq_false_of_ne_true hidle
        have hapdu : apdu ≠ [] := fun hnil => hne (by rw [hnil]; rfl)
        dsimp only
        rw [if_pos h.attached.2]
        exact h.note ⟨rfl, rfl⟩ rfl ⟨honline, hfree, hapdu⟩ rfl fun hoff =>
          absurd hoff (ne_false_of_eq_true honline)
  next => exact h

theorem Observed.onReceive (h : Observed t) (tpdu : List UInt8) : Observed (t.onReceive tpdu) := by
  unfold TransportLayer.onReceive
  split
  next honline =>
    dsimp only
    split
    next => exact ⟨h.attached, h.accepted, h.books, h.offline⟩
    next hne =>
      have hapdu : (t.receiver.processReceive tpdu).1 ≠ [] := fun hnil => hne (by rw [hnil]; rfl)
      exact h.call ⟨rfl, rfl⟩ rfl ⟨honline, hapdu⟩ rfl h.offline
  next => exact h

theorem Observed.onSendResult (h : Observed t) (isSuccess : Bool) :
    Observed (t.onSendResult isSuccess) := by
  unfold TransportLayer.onSendResult
  split
  next => exact h
  next honline =>
    split
    next => exact h
    next hsending =>
      rw [Bool.not_eq_true', Bool.not_eq_false] at honline hsending
      exact h.call ⟨rfl, rfl⟩ rfl ⟨honline, hsending⟩ rfl fun _ => rfl

theorem Observed.onLowerLayerUp (h : Observed t) : Observed t.onLowerLayerUp := by
  unfold TransportLayer.onLowerLayerUp
  split
  next => exact h
  next hoff =>
    have hoffline : t.isOnline = false := eq_false_of_ne_true hoff
    have hidle : t.isSending = false := h.offline hoffline
    refine h.call ⟨rfl, rfl⟩ rfl hoffline ?_ fun _ => hidle
    change (⟨true, false⟩ : LayerBooks) = ⟨true, t.isSending⟩
    rw [hidle]

theorem Observed.onLowerLayerDown (h : Observed t) : Observed t.onLowerLayerDown := by
  unfold TransportLayer.onLowerLayerDown
  split
  next => exact h
  next honline =>
    rw [Bool.not_eq_true', Bool.not_eq_false] at honline
    exact h.call ⟨rfl, rfl⟩ rfl honline rfl fun _ => rfl

theorem Observed.runPosted (h : Observed t) : Observed t.runPosted := by
  unfold TransportLayer.runPosted
  split
  next => exact h
  next posted hposted =>
    have hkept : Observed { t with posted := posted } :=
      ⟨h.attached, h.accepted, h.books, h.offline⟩
    exact hkept.onSendResult false

theorem Observed.step (h : Observed t) (e : Event) : Observed (t.step e) := by
  cases e with
  | beginTransmit apdu => exact h.beginTransmit apdu
  | onReceive tpdu => exact h.onReceive tpdu
  | onSendResult isSuccess => exact h.onSendResult isSuccess
  | onLowerLayerUp => exact h.onLowerLayerUp
  | onLowerLayerDown => exact h.onLowerLayerDown
  | runPosted => exact h.runPosted
  | advance transmitter => exact ⟨h.attached, h.accepted, h.books, h.offline⟩

/-- **The transport layer accounts for every APDU.**  In every run of a layer between two others the
upper layer is told in turn that the layer is up and that it is down, and nothing else while it is
down; an APDU is handed to the link layer only when the one before has its result or the layer was
down since; a result is passed on only for an APDU that has none yet, and no empty APDU is handed
over or passed up. -/
theorem calls_accounted (rxBuffer : List UInt8) (pStatistics : Option StackStatistics)
    (events : List Event) :
    Always step
      (fun t => layerObserver.Accepts .initial t.log ∧
        layerObserver.after .initial t.log = ⟨t.isOnline, t.isSending⟩)
      (initial rxBuffer pStatistics).setLinkLayer.setAppLayer events := by
  have hinitial : Observed (initial rxBuffer pStatistics).setLinkLayer.setAppLayer :=
    ⟨⟨rfl, rfl⟩, trivial, rfl, fun _ => rfl⟩
  have hobserved := always_keeps (I := Observed) (fun t e h => Observed.step h e) events hinitial
  exact hobserved.imp fun t h => ⟨h.accepted, h.books⟩

end TransportLayer
end Transport
end Dnp3
