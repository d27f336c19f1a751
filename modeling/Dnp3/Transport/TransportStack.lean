import Dnp3.Link.PassedData
import Dnp3.Transport.Conversation
import Dnp3.Transport.TransportLayer

/-!
# The transport stack

`TransportStack` is a link layer with the transport layer on top of it, behind the parser of the
channel.  The parser is given what is read from the channel, chunk by chunk; the link layer takes
the frames and passes their data to the transport layer; what the transport layer puts together goes
to the application.

What the application sends when it is called is chosen by the environment, and so is how far the
link layer has advanced the transmitter it was handed.

The result is about a conversation: the APDUs that some transmitter cuts into segments, in
unconfirmed frames of a link that is joined to this one, with other frames between them.  However
the bytes are cut into chunks, and whatever the stack does itself between the reads, the application
is given these APDUs, in order, and nothing else.
-/

namespace Dnp3
namespace Transport

open Library Link

/-- The segments of a transmitter, for the link layer. -/
def TransportTx.handed (tx : TransportTx) : Option Segments :=
  match TransportTx.userData tx.segments.1 with
  | [] => none
  | current :: rest => some ⟨current, rest⟩

/-- What a call hands to the link layer. -/
def LayerEntry.segments : LayerEntry → Option Segments
  | .send transmitter => transmitter.handed
  | _ => none

/-- The layers of a channel: parser, link layer and transport layer. -/
structure TransportStack where
  /-- The parser of the channel. -/
  parser : LinkLayerParser
  link : LinkContext
  transport : TransportLayer

namespace TransportStack

/-- A stack with the application attached. -/
def initial (channelBuffer : Vector UInt8 LPDU_MAX_FRAME_SIZE)
    (pChannelStatistics : Option LinkChannelStatistics) (config : LinkConfig) (now : Int)
    (rxBuffer : List UInt8) (pStatistics : Option StackStatistics) : TransportStack where
  parser := .initial channelBuffer pChannelStatistics
  link := .initial config now
  transport := (TransportLayer.initial rxBuffer pStatistics).setLinkLayer.setAppLayer

/-! ## Calls between the layers -/

/-- What the transport layer has handed to the link layer between two of its states. -/
def sends (before after : TransportLayer) : List Segments :=
  (after.log.drop before.log.length).filterMap LayerEntry.segments

/-- The transport layer after some APDUs of the application. -/
def transmitAll (t : TransportLayer) (apdus : List (List UInt8)) : TransportLayer :=
  apdus.foldl TransportLayer.beginTransmit t

/-- The link layer has called the transport layer.  If the application was called, it answers with
some APDUs before the call is over. -/
def called (before after : TransportLayer) (reply : List (List UInt8)) :
    TransportLayer × List Segments :=
  if before.log.length < after.log.length then
    (transmitAll after reply, sends after (transmitAll after reply))
  else (after, [])

/-- A frame of the channel.  The transport layer is called if the link layer passes data up. -/
def onFrame (reply : List UInt8 → List (List UInt8)) (s : TransportStack) (frame : Frame) :
    TransportStack :=
  let (transport, sends) := called s.transport (s.transport.onReceive frame.2) (reply frame.2)
  let link := s.link.step (.frame frame.1 frame.2 sends)
  if s.link.passed.length < link.passed.length then
    { s with link := link, transport := transport }
  else { s with link := link }

/-- The next chunk is read from the channel. -/
def onRead (s : TransportStack) (chunk : List UInt8) (reply : List UInt8 → List (List UInt8)) :
    TransportStack :=
  (s.parser.receive chunk).2.foldl (onFrame reply) { s with parser := (s.parser.receive chunk).1 }

/-- What the transport layer handed over is sent. -/
def send (s : TransportStack) (called : TransportLayer × List Segments) : TransportStack :=
  { s with
    link := called.2.foldl (fun link segments => link.step (.send segments)) s.link
    transport := called.1 }

/-- Both layers go up, and the application may send at once. -/
def onLowerLayerUp (s : TransportStack) (reply : List (List UInt8)) : TransportStack :=
  let (transport, sends) := called s.transport s.transport.onLowerLayerUp reply
  { s with
    link := s.link.step (.lowerLayerUp sends)
    transport := if s.link.isOnline then s.transport else transport }

/-- Both layers go down. -/
def onLowerLayerDown (s : TransportStack) : TransportStack :=
  { s with
    link := s.link.step .lowerLayerDown
    transport := if s.link.isOnline then s.transport.onLowerLayerDown else s.transport }

/-- The executor runs a callback of the link layer. -/
def runPosted (s : TransportStack) (reply : List (List UInt8)) : TransportStack :=
  match s.link.callbacks with
  | .onSendResult success :: _ =>
    let (transport, sends) := called s.transport (s.transport.onSendResult success) reply
    { s with link := s.link.step (.runPosted sends), transport := transport }
  | _ => { s with link := s.link.step (.runPosted []) }

/-- What can happen to a stack. -/
inductive Event where
  | read (chunk : List UInt8) (reply : List UInt8 → List (List UInt8))
  | lowerLayerUp (reply : List (List UInt8))
  | lowerLayerDown
  | beginTransmit (apdu : List UInt8)
  | transmitResult (success : Bool)
  | responseTimeout
  | keepAliveTimeout
  | elapse (milliseconds : Nat)
  | runPosted (reply : List (List UInt8))
  /-- The executor runs a failure that the transport layer posted. -/
  | runFailure (reply : List (List UInt8))
  | advance (transmitter : TransportTx)

/-- An event takes place. -/
def step (s : TransportStack) : Event → TransportStack
  | .read chunk reply => s.onRead chunk reply
  | .lowerLayerUp reply => s.onLowerLayerUp reply
  | .lowerLayerDown => s.onLowerLayerDown
  | .beginTransmit apdu =>
    s.send (s.transport.beginTransmit apdu, sends s.transport (s.transport.beginTransmit apdu))
  | .transmitResult success => { s with link := s.link.step (.transmitResult success) }
  | .responseTimeout => { s with link := s.link.step .responseTimeout }
  | .keepAliveTimeout => { s with link := s.link.step .keepAliveTimeout }
  | .elapse milliseconds => { s with link := s.link.step (.elapse milliseconds) }
  | .runPosted reply => s.runPosted reply
  | .runFailure reply => s.send (called s.transport s.transport.runPosted reply)
  | .advance transmitter => { s with transport := s.transport.step (.advance transmitter) }

/-- Chunks are not empty and fit the space the parser offers. -/
def Admits (s : TransportStack) : Event → Prop
  | .read chunk _ => 1 ≤ chunk.length ∧ chunk.length ≤ s.parser.writeBuff
  | _ => True

/-- The chunks that are read. -/
def Event.chunk : Event → Option (List UInt8)
  | .read chunk _ => some chunk
  | _ => none

/-- The bytes that were read, in chunks as they came. -/
def chunks (events : List Event) : List (List UInt8) := events.filterMap Event.chunk

end TransportStack

/-! ## The receiving half of a transport layer -/

namespace TransportLayer

variable {t t' t'' : TransportLayer}

/-- The APDU a call passes up. -/
def passedUp : LayerEntry → Option (List UInt8)
  | .onReceive apdu => some apdu
  | _ => none

/-- The APDUs the application was given. -/
def delivered (t : TransportLayer) : List (List UInt8) := t.log.filterMap passedUp

/-- The layers differ in what they send only. -/
structure Hears (t t' : TransportLayer) : Prop where
  pUpperLayer : t'.pUpperLayer = t.pUpperLayer
  isOnline : t'.isOnline = t.isOnline
  receiver : t'.receiver = t.receiver
  delivered : t'.delivered = t.delivered

theorem Hears.refl (t : TransportLayer) : Hears t t := ⟨rfl, rfl, rfl, rfl⟩

theorem Hears.trans (h : Hears t t') (h' : Hears t' t'') : Hears t t'' :=
  ⟨h'.pUpperLayer.trans h.pUpperLayer, h'.isOnline.trans h.isOnline, h'.receiver.trans h.receiver,
    h'.delivered.trans h.delivered⟩

theorem delivered_note (t : TransportLayer) {e : LayerEntry} (he : passedUp e = none) :
    (t.note e).delivered = t.delivered := by
  change (t.log ++ [e]).filterMap passedUp = _
  rw [List.filterMap_append, List.filterMap_cons_none he]
  exact List.append_nil _

theorem hears_note (t : TransportLayer) {e : LayerEntry} (he : passedUp e = none) :
    Hears t (t.note e) := ⟨rfl, rfl, rfl, t.delivered_note he⟩

theorem hears_call (t : TransportLayer) {e : LayerEntry} (he : passedUp e = none) :
    Hears t (t.call e) := by
  unfold call
  split
  · exact t.hears_note he
  · exact .refl t

theorem hears_beginTransmit (t : TransportLayer) (apdu : List UInt8) :
    Hears t (t.beginTransmit apdu) := by
  unfold beginTransmit
  split
  next =>
    split
    next => exact ⟨rfl, rfl, rfl, rfl⟩
    next =>
      split
      next => exact .refl t
      next =>
        dsimp only
        split
        next => exact ⟨rfl, rfl, rfl, delivered_note _ rfl⟩
        next => exact ⟨rfl, rfl, rfl, rfl⟩
  next => exact .refl t

theorem hears_onSendResult (t : TransportLayer) (isSuccess : Bool) :
    Hears t (t.onSendResult isSuccess) := by
  unfold onSendResult
  split
  next => exact .refl t
  next =>
    split
    next => exact .refl t
    next =>
      have hsent : Hears t { t with isSending := false } := ⟨rfl, rfl, rfl, rfl⟩
      exact hsent.trans (hears_call _ rfl)

theorem hears_runPosted (t : TransportLayer) : Hears t t.runPosted := by
  unfold runPosted
  split
  next => exact .refl t
  next posted _ =>
    have hkept : Hears t { t with posted := posted } := ⟨rfl, rfl, rfl, rfl⟩
    exact hkept.trans (hears_onSendResult _ false)

theorem onReceive_keeps (t : TransportLayer) (tpdu : List UInt8) :
    (t.onReceive tpdu).isOnline = t.isOnline ∧ (t.onReceive tpdu).pUpperLayer = t.pUpperLayer ∧
      ∀ size, t.receiver.Sized size → (t.onReceive tpdu).receiver.Sized size := by
  unfold onReceive
  split
  next =>
    have hbounded := fun size (h : t.receiver.Sized size) => h.processReceive tpdu
    dsimp only
    split
    next => exact ⟨rfl, rfl, hbounded⟩
    next =>
      unfold call
      split
      next => exact ⟨rfl, rfl, hbounded⟩
      next => exact ⟨rfl, rfl, hbounded⟩
  next => exact ⟨rfl, rfl, fun _ h => h⟩

/-- A segment that arrives while the layer is online. -/
theorem onReceive_online (honline : t.isOnline = true) (hupper : t.pUpperLayer = true)
    (tpdu : List UInt8) :
    (t.onReceive tpdu).isOnline = true ∧ (t.onReceive tpdu).pUpperLayer = true ∧
      (t.onReceive tpdu).receiver = (t.receiver.receive [tpdu]).2 ∧
      (t.onReceive tpdu).delivered = t.delivered ++ t.receiver.fragments [tpdu] := by
  unfold onReceive
  rw [if_pos honline]
  dsimp only
  split
  next hempty =>
    refine ⟨honline, hupper, rfl, ?_⟩
    simp [delivered, TransportRx.fragments, TransportRx.receive, hempty]
  next hfull =>
    rw [call, if_pos hupper]
    refine ⟨honline, hupper, rfl, ?_⟩
    change (t.log ++ [LayerEntry.onReceive _]).filterMap passedUp = _
    rw [List.filterMap_append]
    simp [delivered, TransportRx.fragments, TransportRx.receive, hfull, passedUp]

/-- A layer that comes up, seen from what it receives. -/
theorem onLowerLayerUp_keeps (t : TransportLayer) :
    t.onLowerLayerUp.isOnline = true ∧ t.onLowerLayerUp.pUpperLayer = t.pUpperLayer ∧
      t.onLowerLayerUp.receiver = t.receiver := by
  unfold onLowerLayerUp
  split
  next honline => exact ⟨honline, rfl, rfl⟩
  next =>
    have hcall := ({ t with isOnline := true } : TransportLayer).hears_call
      (e := .onLowerLayerUp) rfl
    exact ⟨hcall.isOnline, hcall.pUpperLayer, hcall.receiver⟩

theorem onLowerLayerDown_keeps {size : Nat} (hsized : t.receiver.Sized size) :
    t.onLowerLayerDown.isOnline = false ∧ t.onLowerLayerDown.pUpperLayer = t.pUpperLayer ∧
      t.onLowerLayerDown.receiver.Sized size := by
  unfold onLowerLayerDown
  split
  next hoff => exact ⟨by simpa using hoff, rfl, hsized⟩
  next =>
    have hcall := ({ t with
      isOnline := false
      isSending := false
      receiver := t.receiver.reset } : TransportLayer).hears_call (e := .onLowerLayerDown) rfl
    refine ⟨hcall.isOnline, hcall.pUpperLayer, ?_⟩
    rw [hcall.receiver]
    exact ⟨Nat.zero_le _, hsized.2⟩

end TransportLayer

namespace TransportStack

open TransportLayer (Hears)

variable {s s' s'' : TransportStack} {config c : LinkConfig} {size : Nat}

/-! ## What every step keeps -/

theorem hears_transmitAll (t : TransportLayer) (apdus : List (List UInt8)) :
    Hears t (transmitAll t apdus) := by
  induction apdus generalizing t with
  | nil => exact .refl t
  | cons apdu apdus ih => exact (t.hears_beginTransmit apdu).trans (ih _)

/-- What the application answers changes what the layer sends only. -/
theorem hears_called (before after : TransportLayer) (reply : List (List UInt8)) :
    Hears after (called before after reply).1 := by
  unfold called
  split
  · exact hears_transmitAll after reply
  · exact .refl after

/-- The states of two links that differ in what they send only. -/
structure Sends (link link' : LinkContext) : Prop where
  steady : LinkContext.Steady link'
  config : link'.config = link.config
  isOnline : link'.isOnline = link.isOnline
  passed : link'.passed = link.passed

/-- The events of a link that bring no frame and leave the layer up or down. -/
def Within : LinkContext.Event → Prop
  | .frame _ _ _ | .lowerLayerUp _ | .lowerLayerDown => False
  | _ => True

theorem Sends.refl {link : LinkContext} (h : LinkContext.Steady link) : Sends link link :=
  ⟨h, rfl, rfl, rfl⟩

/-- A step of the link sends frames of the transport layer only. -/
theorem Sends.step {link link' : LinkContext} (h : Sends link link') (e : LinkContext.Event)
    (he : Within e) : Sends link (link'.step e) := by
  have hup : ∀ sends, e ≠ .lowerLayerUp sends := fun sends heq => by
    subst heq
    exact he
  have hdown : e ≠ .lowerLayerDown := fun heq => by
    subst heq
    exact he
  have hframe : link'.PassesNothing e := by
    cases e with
    | frame => exact he.elim
    | _ => trivial
  exact ⟨h.steady.step e, (LinkContext.config_step h.steady e).trans h.config,
    (LinkContext.isOnline_step h.steady hup hdown).trans h.isOnline,
    (LinkContext.passed_step h.steady hframe).trans h.passed⟩

theorem Sends.sendAll {link link' : LinkContext} (h : Sends link link') (sends : List Segments) :
    Sends link (sends.foldl (fun link segments => link.step (.send segments)) link') := by
  induction sends generalizing link' with
  | nil => exact h
  | cons segments sends ih =>
    exact ih (h.step (.send segments) trivial)

/-- What holds of every stack with this configuration and maximum size of fragments. -/
structure Sound (config : LinkConfig) (size : Nat) (s : TransportStack) : Prop where
  idle : s.parser.Idle
  steady : LinkContext.Steady s.link
  config : s.link.config = config
  upper : s.transport.pUpperLayer = true
  online : s.transport.isOnline = s.link.isOnline
  sized : s.transport.receiver.Sized size

/-- A step that changes what is sent only. -/
theorem Sound.of_sends (h : Sound config size s) (hparser : s'.parser = s.parser)
    (hlink : Sends s.link s'.link) (htransport : Hears s.transport s'.transport) :
    Sound config size s' where
  idle := by rw [hparser]; exact h.idle
  steady := hlink.steady
  config := hlink.config.trans h.config
  upper := htransport.pUpperLayer.trans h.upper
  online := htransport.isOnline.trans (h.online.trans hlink.isOnline.symm)
  sized := by rw [htransport.receiver]; exact h.sized

/-- A frame that the link hears keeps the layers sound. -/
theorem Sound.onFrame (h : Sound config size s) (reply : List UInt8 → List (List UInt8))
    (frame : Frame) : Sound config size (onFrame reply s frame) := by
  have hlink : ∀ sends, LinkContext.Steady (s.link.step (.frame frame.1 frame.2 sends)) ∧
      (s.link.step (.frame frame.1 frame.2 sends)).config = config ∧
      (s.link.step (.frame frame.1 frame.2 sends)).isOnline = s.link.isOnline := fun sends =>
    ⟨h.steady.step _, (LinkContext.config_step h.steady _).trans h.config,
      LinkContext.isOnline_step h.steady (fun _ hother => by cases hother)
        (fun hother => by cases hother)⟩
  have hcalled := hears_called s.transport (s.transport.onReceive frame.2) (reply frame.2)
  obtain ⟨honline, hupper, hbounded⟩ := s.transport.onReceive_keeps frame.2
  unfold TransportStack.onFrame
  dsimp only
  split
  next =>
    obtain ⟨hsteady, hconfig, hsame⟩ := hlink
      (called s.transport (s.transport.onReceive frame.2) (reply frame.2)).2
    refine ⟨h.idle, hsteady, hconfig, hcalled.pUpperLayer.trans (hupper.trans h.upper), ?_, ?_⟩
    · exact (hcalled.isOnline.trans honline).trans (h.online.trans hsame.symm)
    · change (called s.transport _ _).1.receiver.Sized size
      rw [hcalled.receiver]
      exact hbounded size h.sized
  next =>
    obtain ⟨hsteady, hconfig, hsame⟩ := hlink
      (called s.transport (s.transport.onReceive frame.2) (reply frame.2)).2
    exact ⟨h.idle, hsteady, hconfig, h.upper, h.online.trans hsame.symm, h.sized⟩

theorem Sound.frames (h : Sound config size s) (reply : List UInt8 → List (List UInt8))
    (frames : List Frame) : Sound config size (frames.foldl (TransportStack.onFrame reply) s) := by
  induction frames generalizing s with
  | nil => exact h
  | cons frame frames ih => exact ih (h.onFrame reply frame)

theorem Sound.parsed (h : Sound config size s) {chunk : List UInt8}
    (hfits : chunk.length ≤ s.parser.writeBuff) :
    Sound config size { s with parser := (s.parser.receive chunk).1 } :=
  ⟨LinkLayerParser.follows_frameScanner.keeps h.idle hfits, h.steady, h.config, h.upper, h.online,
    h.sized⟩

/-- Only reads concern the parser. -/
theorem parser_step (s : TransportStack) {e : Event} (hread : e.chunk = none) :
    (s.step e).parser = s.parser := by
  cases e with
  | read chunk reply => cases hread
  | runPosted reply =>
    change (s.runPosted reply).parser = s.parser
    unfold runPosted
    split <;> rfl
  | _ => rfl

/-- The steps that neither read nor change the layer, as far as they concern what is received. -/
theorem receives_alike (h : Sound config size s) {e : Event} (hread : e.chunk = none)
    (hup : ∀ reply, e ≠ .lowerLayerUp reply) (hdown : e ≠ .lowerLayerDown) :
    Sends s.link (s.step e).link ∧ Hears s.transport (s.step e).transport := by
  cases e with
  | read chunk reply => cases hread
  | lowerLayerUp reply => exact absurd rfl (hup reply)
  | lowerLayerDown => exact absurd rfl hdown
  | beginTransmit apdu =>
    exact ⟨(Sends.refl h.steady).sendAll _, s.transport.hears_beginTransmit apdu⟩
  | transmitResult success =>
    exact ⟨(Sends.refl h.steady).step (.transmitResult success) trivial, .refl _⟩
  | responseTimeout => exact ⟨(Sends.refl h.steady).step .responseTimeout trivial, .refl _⟩
  | keepAliveTimeout => exact ⟨(Sends.refl h.steady).step .keepAliveTimeout trivial, .refl _⟩
  | elapse milliseconds =>
    exact ⟨(Sends.refl h.steady).step (.elapse milliseconds) trivial, .refl _⟩
  | runPosted reply =>
    have hlink := fun sends => (Sends.refl h.steady).step (.runPosted sends) trivial
    change Sends _ (s.runPosted reply).link ∧ Hears _ (s.runPosted reply).transport
    unfold runPosted
    split
    next success _ _ =>
      have hresult := s.transport.hears_onSendResult success
      exact ⟨hlink _, hresult.trans (hears_called s.transport _ reply)⟩
    next => exact ⟨hlink [], .refl _⟩
  | runFailure reply =>
    have hresult := s.transport.hears_runPosted
    exact ⟨(Sends.refl h.steady).sendAll _, hresult.trans (hears_called s.transport _ reply)⟩
  | advance transmitter =>
    exact ⟨.refl h.steady, ⟨rfl, rfl, rfl, rfl⟩⟩

theorem Sound.lowerLayerUp (h : Sound config size s) (reply : List (List UInt8)) :
    Sound config size (s.onLowerLayerUp reply) := by
  have hlink := fun sends => LinkContext.isOnline_lowerLayerUp h.steady sends
  have hcalled := hears_called s.transport s.transport.onLowerLayerUp reply
  obtain ⟨honline, hupper, hreceiver⟩ := s.transport.onLowerLayerUp_keeps
  unfold TransportStack.onLowerLayerUp
  generalize hall : called s.transport s.transport.onLowerLayerUp reply = all at hcalled
  obtain ⟨transport, sends⟩ := all
  refine ⟨h.idle, h.steady.step (.lowerLayerUp sends),
    (LinkContext.config_step h.steady (.lowerLayerUp sends)).trans h.config, ?_, ?_, ?_⟩
  · dsimp only
    split
    · exact h.upper
    · exact hcalled.pUpperLayer.trans (hupper.trans h.upper)
  · refine Eq.trans ?_ (hlink _).symm
    dsimp only
    split
    next hon => exact h.online.trans hon
    next => exact hcalled.isOnline.trans honline
  · dsimp only
    split
    · exact h.sized
    · rw [hcalled.receiver, hreceiver]
      exact h.sized

theorem Sound.lowerLayerDown (h : Sound config size s) : Sound config size s.onLowerLayerDown := by
  obtain ⟨hoff, hupper, hbounded⟩ := TransportLayer.onLowerLayerDown_keeps h.sized
  unfold TransportStack.onLowerLayerDown
  refine ⟨h.idle, h.steady.step .lowerLayerDown,
    (LinkContext.config_step h.steady .lowerLayerDown).trans h.config, ?_, ?_, ?_⟩
  · dsimp only
    split
    · exact hupper.trans h.upper
    · exact h.upper
  · refine Eq.trans ?_ (LinkContext.isOnline_lowerLayerDown h.steady).symm
    dsimp only
    split
    next => exact hoff
    next hnot => exact h.online.trans (eq_false_of_ne_true hnot)
  · dsimp only
    split
    · exact hbounded
    · exact h.sized

/-- Every event keeps the layers sound. -/
theorem Sound.step (h : Sound config size s) {e : Event} (hadmits : s.Admits e) :
    Sound config size (s.step e) := by
  by_cases hread : e.chunk = none
  · by_cases hup : ∀ reply, e ≠ .lowerLayerUp reply
    · by_cases hdown : e = .lowerLayerDown
      · rw [hdown]
        exact h.lowerLayerDown
      · obtain ⟨hlink, htransport⟩ := receives_alike h hread hup hdown
        exact h.of_sends (parser_step s hread) hlink htransport
    · obtain ⟨reply, hreply⟩ := not_forall.mp hup
      obtain rfl := not_not.mp hreply
      exact h.lowerLayerUp reply
  · cases e with
    | read chunk reply => exact (h.parsed hadmits.2).frames reply _
    | _ => exact absurd rfl hread

theorem sound_initial (channelBuffer : Vector UInt8 LPDU_MAX_FRAME_SIZE)
    (pChannelStatistics : Option LinkChannelStatistics) (config : LinkConfig) (now : Int)
    (rxBuffer : List UInt8) (pStatistics : Option StackStatistics) :
    Sound config rxBuffer.length
      (initial channelBuffer pChannelStatistics config now rxBuffer pStatistics) where
  idle := LinkLayerParser.idle_initial channelBuffer pChannelStatistics
  steady := LinkContext.steady_initial config now
  config := rfl
  upper := rfl
  online := rfl
  sized := ⟨Nat.zero_le _, rfl⟩

/-! ## A conversation -/

/-- The configurations of the two ends of a link. -/
structure Joined (c config : LinkConfig) : Prop where
  isMaster : config.isMaster = !c.isMaster
  localAddr : config.localAddr = c.remoteAddr
  remoteAddr : config.remoteAddr = c.localAddr

/-- The data that a frame of the link `c` has for the other end, unconfirmed. -/
def carried (c : LinkConfig) (frame : Frame) : Option (List UInt8) :=
  if frame.1.func = .priUnconfirmedUserData ∧ frame.1.isFromMaster = c.isMaster ∧
      frame.1.dest = c.remoteAddr ∧ frame.1.src = c.localAddr then some frame.2
  else none

/-- A stack that is online has received some segments since a state before. -/
structure Heard (s : TransportStack) (tpdus : List (List UInt8)) (s' : TransportStack) : Prop where
  online : s'.link.isOnline = true
  receiver : s'.transport.receiver = (s.transport.receiver.receive tpdus).2
  delivered : s'.transport.delivered =
    s.transport.delivered ++ s.transport.receiver.fragments tpdus

theorem Heard.refl (honline : s.link.isOnline = true) : Heard s [] s :=
  ⟨honline, rfl, (List.append_nil _).symm⟩

theorem Heard.of_hears (honline : s'.link.isOnline = true) (h : Hears s.transport s'.transport) :
    Heard s [] s' :=
  ⟨honline, h.receiver, h.delivered.trans (List.append_nil _).symm⟩

theorem Heard.trans {front back : List (List UInt8)} (h : Heard s front s')
    (h' : Heard s' back s'') : Heard s (front ++ back) s'' := by
  refine ⟨h'.online, ?_, ?_⟩
  · rw [h'.receiver, h.receiver, TransportRx.receive_append]
  · rw [h'.delivered, h.delivered, h.receiver, List.append_assoc]
    unfold TransportRx.fragments
    rw [TransportRx.receive_append, List.filter_append]

/-- A link takes the frames of the one it is joined to, and no others. -/
theorem admits_iff (hjoined : Joined c config) {link : LinkContext} (hconfig : link.config = config)
    (honline : link.isOnline = true) (header : LinkHeaderFields) :
    link.admits header = true ↔ header.isFromMaster = c.isMaster ∧ header.dest = c.remoteAddr ∧
      header.src = c.localAddr := by
  obtain ⟨hmaster, hlocal, hremote⟩ := hjoined
  have hdirection : header.isFromMaster = link.config.isMaster ↔
      ¬ header.isFromMaster = c.isMaster := by
    rw [hconfig, hmaster]
    cases header.isFromMaster <;> cases c.isMaster <;> simp
  unfold LinkContext.admits LinkContext.validate
  rw [honline, Bool.true_and]
  by_cases hsame : header.isFromMaster = c.isMaster
  · rw [if_neg fun hself => hdirection.mp hself hsame, hconfig, hlocal, hremote]
    by_cases hdest : header.dest = c.remoteAddr
    · by_cases hsrc : header.src = c.localAddr <;> simp [hsame, hdest, hsrc]
    · simp [hdest]
  · rw [if_pos (hdirection.mpr hsame)]
    simp [hsame]

/-- What a frame carries is passed up, whatever the application answers. -/
theorem heard_onFrame (h : Sound config size s) (hjoined : Joined c config)
    (honline : s.link.isOnline = true) (reply : List UInt8 → List (List UInt8)) {frame : Frame}
    (hfunc : frame.1.func ≠ .priConfirmedUserData) :
    Heard s (carried c frame).toList (onFrame reply s frame) := by
  have hadmits := admits_iff hjoined h.config honline frame.1
  have hcalled := hears_called s.transport (s.transport.onReceive frame.2) (reply frame.2)
  have hstays : ∀ sends, (s.link.step (.frame frame.1 frame.2 sends)).isOnline = true :=
    fun sends => (LinkContext.isOnline_step h.steady (fun _ he => by cases he)
      (fun he => by cases he)).trans honline
  obtain ⟨-, -, hreceiver, hdelivered⟩ :=
    TransportLayer.onReceive_online (h.online.trans honline) h.upper frame.2
  unfold onFrame carried
  generalize called s.transport (s.transport.onReceive frame.2) (reply frame.2) = all at hcalled
  obtain ⟨transport, sends⟩ := all
  dsimp only
  by_cases hcarries : frame.1.func = .priUnconfirmedUserData ∧ frame.1.isFromMaster = c.isMaster ∧
      frame.1.dest = c.remoteAddr ∧ frame.1.src = c.localAddr
  · have hpassed := LinkContext.passed_unconfirmed h.steady frame.2 sends
      (hadmits.mpr hcarries.2) hcarries.1
    have hgrows : s.link.passed.length <
        (s.link.step (.frame frame.1 frame.2 sends)).passed.length := by
      rw [hpassed, List.length_append]
      exact Nat.lt_succ_self _
    rw [if_pos hgrows, if_pos hcarries]
    exact ⟨hstays sends, hcalled.receiver.trans hreceiver, hcalled.delivered.trans hdelivered⟩
  · have hnothing : s.link.PassesNothing (.frame frame.1 frame.2 sends) := by
      by_cases hdata : frame.1.func = .priUnconfirmedUserData
      · refine .inl (eq_false_of_ne_true fun hadmitted => hcarries ⟨hdata, ?_⟩)
        exact hadmits.mp hadmitted
      · exact .inr ⟨hfunc, hdata⟩
    rw [LinkContext.passed_step h.steady hnothing, if_neg (Nat.lt_irrefl _), if_neg hcarries]
    exact .of_hears (hstays sends) (.refl _)

/-- The frames of a channel are heard one after the other. -/
theorem heard_frames (h : Sound config size s) (hjoined : Joined c config)
    (honline : s.link.isOnline = true) (reply : List UInt8 → List (List UInt8))
    {frames : List Frame} (hfunc : ∀ frame ∈ frames, frame.1.func ≠ .priConfirmedUserData) :
    Heard s (frames.filterMap (carried c)) (frames.foldl (onFrame reply) s) := by
  induction frames generalizing s with
  | nil => exact .refl honline
  | cons frame frames ih =>
    have hthis := heard_onFrame h hjoined honline reply (hfunc frame List.mem_cons_self)
    have hrest := ih (h.onFrame reply frame) hthis.online fun later hlater =>
      hfunc later (List.mem_cons_of_mem frame hlater)
    have hsplit : (frame :: frames).filterMap (carried c) =
        (carried c frame).toList ++ frames.filterMap (carried c) := by
      cases hcarries : carried c frame with
      | none => exact List.filterMap_cons_none hcarries
      | some data => exact List.filterMap_cons_some hcarries
    rw [hsplit]
    exact hthis.trans hrest

theorem parser_onFrame (reply : List UInt8 → List (List UInt8)) (s : TransportStack)
    (frame : Frame) : (onFrame reply s frame).parser = s.parser := by
  unfold onFrame
  dsimp only
  split <;> rfl

theorem parser_frames (reply : List UInt8 → List (List UInt8)) (s : TransportStack)
    (frames : List Frame) : (frames.foldl (onFrame reply) s).parser = s.parser := by
  induction frames generalizing s with
  | nil => rfl
  | cons frame frames ih => exact (ih _).trans (parser_onFrame reply s frame)

/-- What happens between the reads receives nothing. -/
theorem heard_quiet (h : Sound config size s) (honline : s.link.isOnline = true) {e : Event}
    (hread : e.chunk = none) (hdown : e ≠ .lowerLayerDown) :
    Heard s [] (s.step e) := by
  by_cases hup : ∀ reply, e ≠ .lowerLayerUp reply
  · obtain ⟨hlink, htransport⟩ := receives_alike h hread hup hdown
    exact .of_hears (hlink.isOnline.trans honline) htransport
  · obtain ⟨reply, hreply⟩ := not_forall.mp hup
    obtain rfl := not_not.mp hreply
    refine .of_hears (LinkContext.isOnline_lowerLayerUp h.steady _) ?_
    change Hears _ (if s.link.isOnline then _ else _)
    rw [if_pos honline]
    exact .refl _

/-- What is received over a run is what the frames carry that the parser delivers. -/
theorem heard_run (h : Sound config size s) (hjoined : Joined c config)
    (honline : s.link.isOnline = true) {events : List Event}
    (hadmits : Throughout step Admits s events) (hup : ∀ e ∈ events, e ≠ .lowerLayerDown)
    (hfunc : ∀ frame ∈ (LinkLayerParser.receiver.run s.parser (chunks events)).2,
      frame.1.func ≠ .priConfirmedUserData) :
    Heard s ((LinkLayerParser.receiver.run s.parser (chunks events)).2.filterMap (carried c))
      (run step s events) := by
  induction events generalizing s with
  | nil => exact .refl honline
  | cons e events ih =>
    have hlater : ∀ e' ∈ events, e' ≠ .lowerLayerDown := fun e' he' =>
      hup e' (List.mem_cons_of_mem e he')
    by_cases hread : e.chunk = none
    · have hquiet := heard_quiet h honline hread (hup e List.mem_cons_self)
      have hchunks : chunks (e :: events) = chunks events := List.filterMap_cons_none hread
      rw [hchunks, ← parser_step s hread] at hfunc ⊢
      exact hquiet.trans (ih (h.step hadmits.1) hquiet.online hadmits.2 hlater hfunc)
    · cases e with
      | read chunk reply =>
        have hout :
            (LinkLayerParser.receiver.run s.parser (chunks (.read chunk reply :: events))).2 =
              (s.parser.receive chunk).2 ++
                (LinkLayerParser.receiver.run (s.parser.receive chunk).1 (chunks events)).2 := rfl
        have hparser : (s.step (.read chunk reply)).parser = (s.parser.receive chunk).1 :=
          parser_frames reply { s with parser := (s.parser.receive chunk).1 } _
        rw [hout, ← hparser] at hfunc ⊢
        have hfirst := heard_frames (h.parsed hadmits.1.2) hjoined honline reply
          fun frame hframe => hfunc frame (List.mem_append_left _ hframe)
        have hthis : Heard s ((s.parser.receive chunk).2.filterMap (carried c))
            (s.step (.read chunk reply)) :=
          ⟨hfirst.online, hfirst.receiver, hfirst.delivered⟩
        rw [List.filterMap_append]
        exact hthis.trans (ih (h.step hadmits.1) hthis.online hadmits.2 hlater
          fun frame hframe => hfunc frame (List.mem_append_right _ hframe))
      | _ => exact absurd rfl hread

/-- The chunks that are read fit the parser. -/
theorem fits_chunks (h : Sound config size s) {events : List Event}
    (hadmits : Throughout step Admits s events) :
    LinkLayerParser.receiver.Fits s.parser (chunks events) := by
  induction events generalizing s with
  | nil => trivial
  | cons e events ih =>
    have hrest := ih (h.step hadmits.1) hadmits.2
    by_cases hread : e.chunk = none
    · rw [show chunks (e :: events) = chunks events from List.filterMap_cons_none hread]
      rwa [parser_step s hread] at hrest
    · cases e with
      | read chunk reply =>
        have hparser : (s.step (.read chunk reply)).parser = (s.parser.receive chunk).1 :=
          parser_frames reply { s with parser := (s.parser.receive chunk).1 } _
        rw [hparser] at hrest
        exact ⟨hadmits.1, hrest⟩
      | _ => exact absurd rfl hread

/-- Frames that stand one behind the other are delivered one after the other. -/
theorem scan_frames (formats : List Link.Format) :
    (frameScanner.scan (formats.flatMap Link.Format.bytes)).2 = formats.map Link.Format.frame := by
  induction formats with
  | nil => exact scan_of_length_lt_ten (Nat.zero_lt_succ 9)
  | cons f formats ih =>
    have hstep := f.scan_bytes (formats.flatMap Link.Format.bytes)
    rw [List.flatMap_cons, hstep.scan_frame, ih]
    rfl

/-- The frames of a link that sends a conversation carry its segments. -/
theorem carried_conversation (c : LinkConfig) (tx : TransportTx) (apdus : List (List UInt8)) :
    (((TransportTx.userData (tx.conversation apdus)).map (LinkContext.unconfirmedFrame c)).map
      Link.Format.frame).filterMap (carried c) = tx.conversation apdus := by
  have hcarried : ∀ data : List UserData,
      ((data.map (LinkContext.unconfirmedFrame c)).map Link.Format.frame).filterMap (carried c) =
        data.map UserData.bytes := by
    intro data
    induction data with
    | nil => rfl
    | cons d data ih =>
      have hthis : carried c (LinkContext.unconfirmedFrame c d).frame = some d.bytes :=
        if_pos ⟨rfl, rfl, rfl, rfl⟩
      rw [List.map_cons, List.map_cons, List.filterMap_cons_some hthis, ih, List.map_cons]
  rw [hcarried, TransportTx.bytes_userData (tx.conversation_sized apdus)]

/-- **A conversation is delivered.**  A stack that is online, between two frames, reads frames of
which those of the link it is joined to carry APDUs, cut into segments by one transmitter and
unconfirmed; other frames without confirmed user data may stand between them.  However the bytes are
cut into chunks, and whatever the stack sends itself and its timers do between the reads and while
it takes the data, the application is given these APDUs, in order, and nothing else. -/
theorem conversation_delivered (channelBuffer : Vector UInt8 LPDU_MAX_FRAME_SIZE)
    (pChannelStatistics : Option LinkChannelStatistics) (config c : LinkConfig) (now : Int)
    (rxBuffer : List UInt8) (pStatistics : Option StackStatistics) (front events : List Event)
    (formats : List Link.Format) (tx : TransportTx) (apdus : List (List UInt8))
    (hjoined : Joined c config)
    (hadmits : Throughout step Admits
      (initial channelBuffer pChannelStatistics config now rxBuffer pStatistics) (front ++ events))
    (hseq : tx.sequence < 64) (hfit : ∀ apdu ∈ apdus, apdu ≠ [] ∧ apdu.length ≤ rxBuffer.length)
    (hup : ∀ e ∈ events, e ≠ .lowerLayerDown)
    (hfunc : ∀ f ∈ formats, f.fields.func ≠ .priConfirmedUserData)
    (hcarried : (formats.map Link.Format.frame).filterMap (carried c) = tx.conversation apdus)
    (hwire : (chunks events).flatten = formats.flatMap Link.Format.bytes) :
    let s := run step
      (initial channelBuffer pChannelStatistics config now rxBuffer pStatistics) front
    s.link.isOnline = true → s.parser.unread = [] →
    (run step s events).transport.delivered = s.transport.delivered ++ apdus := by
  intro s honline hunread
  obtain ⟨hfront, hevents⟩ := throughout_append.mp hadmits
  have hsound : Sound config rxBuffer.length s :=
    run_invariant (fun _ _ h hadmits => h.step hadmits)
      (sound_initial channelBuffer pChannelStatistics config now rxBuffer pStatistics) hfront
  have hpending : frameScanner.scan s.parser.unread = ([], []) := by
    rw [hunread]
    exact Scanner.scan_of_next_none rfl
  have hframes : (LinkLayerParser.receiver.run s.parser (chunks events)).2 =
      formats.map Link.Format.frame := by
    rw [LinkLayerParser.follows_frameScanner.run_out hsound.idle hpending
      (fits_chunks hsound hevents), List.nil_append, hwire, scan_frames]
  have hheard := heard_run hsound hjoined honline hevents hup (by
    rw [hframes]
    intro frame hframe
    obtain ⟨f, hf, rfl⟩ := List.mem_map.mp hframe
    exact hfunc f hf)
  rw [hframes, hcarried] at hheard
  rw [hheard.delivered, TransportRx.fragments_conversation hsound.sized hseq hfit]

/-- The two ends of a link: a master at address 1 and an outstation at address 1024. -/
def masterConfig : LinkConfig where
  isMaster := true
  useConfirms := false
  numRetry := 0
  localAddr := 1
  remoteAddr := 1024
  timeout := 1000
  keepAliveTimeout := 60000

/-- The other end of the link of the example. -/
def outstationConfig : LinkConfig :=
  { masterConfig with isMaster := false, localAddr := 1024, remoteAddr := 1 }

/-- A request for the status of the link, and a frame with a request of two bytes. -/
def requestFormats : List Link.Format :=
  [.requestLinkStatus true 1024 1,
    .unconfirmedUserData true 1024 1 ⟨[0xC0, 0xC0, 0x17], by decide, by decide⟩]

/-- The two frames, cut in their headers; meanwhile the outstation sends. -/
def requestEvents : List Event :=
  [.read [0x05, 0x64, 0x05] fun _ => [],
    .read [0xC9, 0x00, 0x04, 0x01, 0x00, 0x98, 0x81, 0x05, 0x64, 0x08, 0xC4, 0x00, 0x04, 0x01]
      fun _ => [],
    .beginTransmit [0xF0, 0x82],
    .read [0x00, 0x9A, 0x19, 0xC0, 0xC0, 0x17, 0xC2, 0xA7] fun _ => [[0xC0, 0x81, 0x00, 0x00]]]

theorem conversation_delivered_request :
    let s := run step (initial (Vector.replicate LPDU_MAX_FRAME_SIZE 0) none outstationConfig 0
      [0, 0, 0, 0] none) [.lowerLayerUp []]
    (run step s requestEvents).transport.delivered = s.transport.delivered ++ [[0xC0, 0x17]] := by
  have hsegments : (TransportTx.initial none).conversation [[0xC0, 0x17]] =
      [[0xC0, 0xC0, 0x17]] := by
    rw [TransportTx.conversation, TransportTx.segments]
    rfl
  have hup : ∀ e ∈ requestEvents, e ≠ .lowerLayerDown := by
    intro e he heq
    subst heq
    simp [requestEvents] at he
  refine conversation_delivered (Vector.replicate LPDU_MAX_FRAME_SIZE 0) none outstationConfig
    masterConfig 0 [0, 0, 0, 0] none [.lowerLayerUp []] requestEvents requestFormats (.initial none)
    [[0xC0, 0x17]] ⟨rfl, rfl, rfl⟩ ?_ (by decide) (by decide) hup ?_ ?_ (by decide +kernel) rfl rfl
  · exact ⟨trivial, ⟨by decide +kernel, by decide +kernel⟩, ⟨by decide +kernel, by decide +kernel⟩,
      trivial, ⟨by decide +kernel, by decide +kernel⟩, trivial⟩
  · simp [requestFormats, Link.Format.fields]
  · rw [hsegments]
    rfl

end TransportStack
end Transport
end Dnp3
