import Dnp3.Library.Observer
import Dnp3.Link.LinkHandlers
import Mathlib.Logic.Function.Basic

/-!
# The transmit buffers of a link

An observer of the log knows which frame was formatted last in each of the two buffers, which buffer
is with the router, and which is pending.  It allows a buffer to be formatted only while the frame
in it is neither with the router nor pending, one buffer at a time to be given to the router, with
the bytes of the frame that was formatted last, and a frame to wait only for the frame of the other
station.

A link does nothing else: a station formats a frame only in a state that has none, and waits in a
transmit-wait state until the result of its frame has come.
-/

namespace Dnp3
namespace Link

open Asiodnp3 (LinkTransmitMode)
open Library Relation

/-! ## The observer -/

/-- What is known of the buffers, `true` for the primary one. -/
structure TransmitBuffers where
  /-- The buffer that is with the router. -/
  inFlight : Option Bool
  pending : Bool → Bool
  /-- The frame that was formatted last. -/
  frame : Bool → Option Format

namespace TransmitBuffers

/-- Nothing was formatted. -/
def initial : TransmitBuffers where
  inFlight := none
  pending := fun _ => false
  frame := fun _ => none

/-- The frame in the buffer is with the router or pending. -/
def holds (b : TransmitBuffers) (primary : Bool) : Prop :=
  b.inFlight = some primary ∨ b.pending primary = true

/-- The entries that a layer may make with such books. -/
def Allows (b : TransmitBuffers) : LinkEntry → Prop
  | .formatted primary _ => ¬ b.holds primary
  | .pending primary => b.inFlight = some (!primary) ∧ b.pending primary = false
  | .beginTransmit primary bytes =>
    b.inFlight = none ∧ (b.frame primary).map Format.bytes = some bytes
  | .transmitResult primary _ => b.inFlight = some primary
  | _ => True

/-- The books with an entry read. -/
def next (b : TransmitBuffers) : LinkEntry → TransmitBuffers
  | .formatted primary frame => { b with frame := Function.update b.frame primary (some frame) }
  | .pending primary => { b with pending := Function.update b.pending primary true }
  | .beginTransmit primary _ =>
    { b with inFlight := some primary, pending := Function.update b.pending primary false }
  | .transmitResult _ _ => { b with inFlight := none }
  | .down => { b with inFlight := none, pending := fun _ => false }
  | _ => b

end TransmitBuffers

/-- The observer of buffers, from the books and what they allow. -/
def bufferObserver : Observer TransmitBuffers LinkEntry where
  allows := TransmitBuffers.Allows
  next := TransmitBuffers.next

namespace LinkContext

variable {s s' : LinkContext} {primary : Bool}

/-- The books of the observer after the log. -/
def buffers (s : LinkContext) : TransmitBuffers := bufferObserver.after .initial s.log

/-- The observer accepts the log, and its books are those of the link. -/
structure Buffered (s : LinkContext) : Prop where
  accepted : bufferObserver.Accepts .initial s.log
  inFlight : ∀ primary, s.buffers.inFlight = some primary ↔ s.txMode = .of primary
  pending : ∀ primary, s.buffers.pending primary = (s.pendingTx primary).isSome
  /-- A pending frame is the one that was formatted last in its buffer. -/
  content : ∀ primary size, s.pendingTx primary = some size →
    (s.buffers.frame primary).map Format.bytes = some ((s.txBuffer primary).take size)

theorem buffered_initial (config : LinkConfig) (now : Int) : Buffered (initial config now) where
  accepted := trivial
  inFlight := fun primary => by cases primary <;> exact ⟨nofun, nofun⟩
  pending := fun primary => by cases primary <;> rfl
  content := fun primary _ h => by cases primary <;> cases h

/-- The books of a link are those of its transmitter. -/
theorem Buffered.holds_iff (h : Buffered s) (primary : Bool) :
    s.buffers.holds primary ↔ s.awaits primary = true := by
  simp [TransmitBuffers.holds, awaits, h.inFlight, h.pending]

theorem Buffered.inFlight_none (h : Buffered s) (hidle : s.txMode = .idle) :
    s.buffers.inFlight = none := by
  cases hflight : s.buffers.inFlight with
  | none => rfl
  | some primary =>
    have hmode := (h.inFlight primary).mp hflight
    exact absurd (hmode.symm.trans hidle) (of_ne_idle primary)

/-- The entries that say nothing about the buffers. -/
def Silent (e : LinkEntry) : Prop := ∀ b : TransmitBuffers, b.Allows e ∧ b.next e = b

theorem buffers_note (s : LinkContext) (e : LinkEntry) : (s.note e).buffers = s.buffers.next e :=
  bufferObserver.after_concat _ s.log e

theorem Buffered.note (h : Buffered s) {e : LinkEntry} (he : Silent e) : Buffered (s.note e) := by
  have hbuffers : (s.note e).buffers = s.buffers := (s.buffers_note e).trans (he _).2
  refine ⟨bufferObserver.accepts_concat h.accepted (he _).1, ?_, ?_, ?_⟩
  · rw [hbuffers]
    exact h.inFlight
  · rw [hbuffers]
    exact h.pending
  · rw [hbuffers]
    exact h.content

/-- States with the same buffers, transmitter and log. -/
structure SameBuffers (s s' : LinkContext) : Prop where
  txMode : s'.txMode = s.txMode
  pendingTx : ∀ primary, s'.pendingTx primary = s.pendingTx primary
  txBuffer : ∀ primary, s'.txBuffer primary = s.txBuffer primary
  log : s'.log = s.log

theorem Buffered.of_same (h : Buffered s) (hs : SameBuffers s s') : Buffered s' := by
  have hbuffers : s'.buffers = s.buffers := by rw [buffers, hs.log, buffers]
  refine ⟨?_, fun primary => ?_, fun primary => ?_, fun primary size hsize => ?_⟩
  · rw [hs.log]
    exact h.accepted
  · rw [hbuffers, hs.txMode]
    exact h.inFlight primary
  · rw [hbuffers, hs.pendingTx]
    exact h.pending primary
  · rw [hbuffers, hs.txBuffer]
    exact h.content primary size (hs.pendingTx primary ▸ hsize)

theorem Buffered.setPriState (h : Buffered s) (state : PriState) : Buffered (s.setPriState state) :=
  h.of_same ⟨rfl, fun _ => rfl, fun _ => rfl, rfl⟩

theorem Buffered.setSecState (h : Buffered s) (state : SecState) : Buffered (s.setSecState state) :=
  h.of_same ⟨rfl, fun _ => rfl, fun _ => rfl, rfl⟩

/-! ## Transmitting -/

/-- The buffer that was formatted last, and the other one. -/
theorem txBuffer_format (s : LinkContext) (primary : Bool) (frame : Format) :
    ((s.format primary frame).1.txBuffer primary).take (s.format primary frame).2 = frame.bytes ∧
      (s.format primary frame).1.txBuffer (!primary) = s.txBuffer (!primary) := by
  cases primary <;> exact ⟨List.take_left, rfl⟩

theorem buffers_format (s : LinkContext) (primary : Bool) (frame : Format) :
    (s.format primary frame).1.buffers =
      { s.buffers with frame := Function.update s.buffers.frame primary (some frame) } := by
  cases primary <;> exact buffers_note _ _

theorem accepts_format (h : Buffered s) (hnot : s.awaits primary = false) (frame : Format) :
    bufferObserver.Accepts .initial (s.format primary frame).1.log := by
  have hallows : s.buffers.Allows (.formatted primary frame) := by
    intro hholds
    rw [(h.holds_iff primary).mp hholds] at hnot
    cases hnot
  cases primary <;> exact bufferObserver.accepts_concat h.accepted hallows

theorem txBuffer_setPendingTx (s : LinkContext) (primary primary' : Bool) (pending : Option Nat) :
    (s.setPendingTx primary pending).txBuffer primary' = s.txBuffer primary' := by
  cases primary <;> rfl

theorem log_setPendingTx (s : LinkContext) (primary : Bool) (pending : Option Nat) :
    (s.setPendingTx primary pending).log = s.log := by
  cases primary <;> rfl

theorem eq_or_eq_not (primary primary' : Bool) : primary' = primary ∨ primary' = !primary := by
  cases primary <;> cases primary' <;> simp

/-- A buffer that is given to the router. -/
theorem buffered_begun (h : bufferObserver.Accepts .initial s.log)
    (hidle : s.buffers.inFlight = none)
    (hpending : ∀ primary, s.buffers.pending primary = (s.pendingTx primary).isSome)
    (hother : ∀ size, s.pendingTx (!primary) ≠ some size) {size : Nat}
    (hcontent : (s.buffers.frame primary).map Format.bytes = some ((s.txBuffer primary).take size))
    (hmode : s'.txMode = .of primary) (hnone : s'.pendingTx primary = none)
    (hsame : s'.pendingTx (!primary) = s.pendingTx (!primary))
    (hlog : s'.log = s.log ++ [LinkEntry.beginTransmit primary ((s.txBuffer primary).take size)]) :
    Buffered s' := by
  have hbuffers : s'.buffers =
      { s.buffers with
        inFlight := some primary, pending := Function.update s.buffers.pending primary false } := by
    rw [buffers, hlog]
    exact bufferObserver.after_concat _ _ _
  refine ⟨?_, fun primary' => ?_, fun primary' => ?_, fun primary' size' hsize => ?_⟩
  · rw [hlog]
    exact bufferObserver.accepts_concat h ⟨hidle, hcontent⟩
  · rw [hbuffers, hmode]
    cases primary <;> cases primary' <;> simp [LinkTransmitMode.of]
  · rw [hbuffers]
    rcases eq_or_eq_not primary primary' with rfl | rfl
    · simp [hnone]
    · have hne : (!primary) ≠ primary := by cases primary <;> simp
      simp [hsame, hpending]
  · rcases eq_or_eq_not primary primary' with rfl | rfl
    · rw [hnone] at hsize
      cases hsize
    · exact absurd (hsame.symm.trans hsize) (hother size')

/-- A buffer that has to wait for the other one. -/
theorem buffered_waiting (h : bufferObserver.Accepts .initial s.log)
    (hinFlight : ∀ primary, s.buffers.inFlight = some primary ↔ s.txMode = .of primary)
    (hpending : ∀ primary, s.buffers.pending primary = (s.pendingTx primary).isSome)
    (hmode : s.txMode = .of !primary) (hnone : s.pendingTx primary = none)
    (hother : ∀ size, s.pendingTx (!primary) = some size →
      (s.buffers.frame !primary).map Format.bytes = some ((s.txBuffer !primary).take size))
    {size : Nat}
    (hcontent : (s.buffers.frame primary).map Format.bytes =
      some ((s.txBuffer primary).take size)) :
    Buffered ((s.setPendingTx primary (some size)).note (.pending primary)) := by
  have hbuffers : ((s.setPendingTx primary (some size)).note (.pending primary)).buffers =
      { s.buffers with pending := Function.update s.buffers.pending primary true } := by
    rw [buffers_note, buffers, log_setPendingTx]
    rfl
  have hne : (!primary) ≠ primary := by cases primary <;> simp
  refine ⟨?_, fun primary' => ?_, fun primary' => ?_, fun primary' size' hsize => ?_⟩
  · refine bufferObserver.accepts_concat ?_ ?_
    · rw [log_setPendingTx]
      exact h
    · rw [log_setPendingTx]
      refine ⟨(hinFlight !primary).mpr hmode, (hpending primary).trans ?_⟩
      rw [hnone]
      rfl
  · rw [hbuffers]
    change s.buffers.inFlight = some primary' ↔
      (s.setPendingTx primary (some size)).txMode = .of primary'
    rw [txMode_setPendingTx]
    exact hinFlight primary'
  · rw [hbuffers]
    change Function.update s.buffers.pending primary true primary' =
      ((s.setPendingTx primary (some size)).pendingTx primary').isSome
    rcases eq_or_eq_not primary primary' with rfl | rfl
    · simp
    · simp [hpending]
  · rw [hbuffers]
    change (s.setPendingTx primary (some size)).pendingTx primary' = some size' at hsize
    change (s.buffers.frame primary').map Format.bytes =
      some (((s.setPendingTx primary (some size)).txBuffer primary').take size')
    rw [txBuffer_setPendingTx]
    rcases eq_or_eq_not primary primary' with rfl | rfl
    · rw [pendingTx_setPendingTx] at hsize
      cases hsize
      exact hcontent
    · rw [pendingTx_not_setPendingTx] at hsize
      exact hother size' hsize

/-- A station that has no frame transmits one. -/
theorem buffered_transmit (h : Buffered s) (horderly : Orderly s)
    (hnot : s.awaits primary = false) (frame : Format) : Buffered (s.transmit primary frame) := by
  obtain ⟨hbytes, hother⟩ := s.txBuffer_format primary frame
  have haccepts := accepts_format h hnot frame
  have hbooks := s.buffers_format primary frame
  have hframe : ((s.format primary frame).1.buffers.frame primary).map Format.bytes =
      some (((s.format primary frame).1.txBuffer primary).take (s.format primary frame).2) := by
    rw [hbooks, hbytes]
    simp
  have hinFlight : ∀ primary', (s.format primary frame).1.buffers.inFlight = some primary' ↔
      (s.format primary frame).1.txMode = .of primary' := by
    intro primary'
    rw [hbooks, txMode_format]
    exact h.inFlight primary'
  have hpending : ∀ primary', (s.format primary frame).1.buffers.pending primary' =
      ((s.format primary frame).1.pendingTx primary').isSome := by
    intro primary'
    rw [hbooks, pendingTx_format]
    exact h.pending primary'
  obtain ⟨hmode, hnone⟩ := awaits_eq_false.mp hnot
  have hnone' : (s.format primary frame).1.pendingTx primary = none :=
    (pendingTx_format s primary frame primary).trans hnone
  unfold transmit queueTransmit
  by_cases hidle : s.txMode = .idle
  · rw [if_pos ((txMode_format s primary frame).trans hidle)]
    have hfree : (s.format primary frame).1.buffers.inFlight = none := by
      rw [hbooks]
      exact h.inFlight_none hidle
    refine buffered_begun haccepts hfree hpending ?_ hframe rfl hnone' rfl ?_
    · intro size
      rw [pendingTx_format, horderly.free hidle]
      exact nofun
    · cases primary <;> rfl
  · rw [if_neg (by rwa [txMode_format])]
    refine buffered_waiting haccepts hinFlight hpending ?_ hnone' ?_ hframe
    · rw [txMode_format]
      cases htx : s.txMode <;> cases primary <;> simp_all [LinkTransmitMode.of]
    · intro size hsize
      have hne : (!primary) ≠ primary := by cases primary <;> simp
      rw [pendingTx_format] at hsize
      rw [hother, hbooks]
      simp only [Function.update_of_ne hne]
      exact h.content _ size hsize

theorem buffered_freed (h : Buffered s) (hmode : s.txMode = .of primary) (success : Bool) :
    bufferObserver.Accepts .initial (s.freed primary success).log ∧
      (s.freed primary success).buffers = { s.buffers with inFlight := none } :=
  ⟨bufferObserver.accepts_concat h.accepted ((h.inFlight primary).mpr hmode),
    bufferObserver.after_concat _ _ _⟩

/-- The other station's frame is given to the router when the transmitter is free. -/
theorem buffered_released (h : Buffered s) (horderly : Orderly s) (hmode : s.txMode = .of primary)
    (success : Bool) : Buffered (s.released primary success) := by
  obtain ⟨haccepts, hbooks⟩ := buffered_freed h hmode success
  cases hother : s.pendingTx (!primary) with
  | none =>
    rw [released_of_none horderly hmode hother]
    refine ⟨haccepts, fun primary' => ?_, fun primary' => ?_, fun primary' size hsize => ?_⟩
    · rw [hbooks]
      exact ⟨nofun, fun hof => absurd hof.symm (of_ne_idle primary')⟩
    · rw [hbooks]
      exact h.pending primary'
    · rw [hbooks]
      exact h.content primary' size hsize
  | some size =>
    rw [released_of_some horderly hmode hother]
    have hown : ∀ size', (s.freed primary success).pendingTx (!!primary) ≠ some size' := by
      intro size' hsize
      rw [Bool.not_not] at hsize
      exact absurd ((horderly.once primary hmode).symm.trans hsize) nofun
    have hpending : ∀ primary', (s.freed primary success).buffers.pending primary' =
        ((s.freed primary success).pendingTx primary').isSome := by
      intro primary'
      rw [hbooks]
      exact h.pending primary'
    have hcontent : ((s.freed primary success).buffers.frame !primary).map Format.bytes =
        some (((s.freed primary success).txBuffer !primary).take size) := by
      rw [hbooks]
      exact h.content (!primary) size hother
    refine buffered_begun haccepts (by rw [hbooks]) hpending hown hcontent rfl ?_ ?_ ?_
    · cases primary <;> rfl
    · cases primary <;> rfl
    · cases primary <;> rfl

/-! ## Links -/

theorem SameBuffers.orderly (h : SameBuffers s s') (ho : Orderly s) : Orderly s' where
  once primary hmode := (h.pendingTx primary).trans (ho.once primary (h.txMode ▸ hmode))
  free hidle primary := (h.pendingTx primary).trans (ho.free (h.txMode ▸ hidle) primary)

theorem SameBuffers.awaits (h : SameBuffers s s') (primary : Bool) :
    s'.awaits primary = s.awaits primary := by
  rw [LinkContext.awaits, h.txMode, h.pendingTx, LinkContext.awaits]

/-- A frame of a station that has none is transmitted, after changes to the rest of the state. -/
theorem Buffered.transmits (h : Buffered s) (ho : Orderly s) (hnot : s.awaits primary = false)
    (s' : LinkContext) (hs : SameBuffers s s') (frame : Format) :
    Buffered (s'.transmit primary frame) :=
  buffered_transmit (h.of_same hs) (hs.orderly ho) ((hs.awaits primary).trans hnot) frame

theorem Buffered.post (h : Buffered s) (callback : Posted) : Buffered (s.post callback) := by
  have hposted : Buffered { s with callbacks := s.callbacks ++ [callback] } :=
    h.of_same ⟨rfl, fun _ => rfl, fun _ => rfl, rfl⟩
  exact hposted.note fun _ => ⟨trivial, rfl⟩

theorem Buffered.completed (h : Buffered s) (success : Bool) : Buffered (s.completed success) := by
  have hnone : Buffered { s with pSegments := none } :=
    h.of_same ⟨rfl, fun _ => rfl, fun _ => rfl, rfl⟩
  exact (hnone.post (.onSendResult success)).of_same ⟨rfl, fun _ => rfl, fun _ => rfl, rfl⟩

/-- A link that goes down has no frames. -/
theorem Buffered.shut (h : Buffered s) : Buffered s.shut := by
  have hdown : ∀ s₁ : LinkContext, s₁.log = s.log ++ [LinkEntry.down] → s₁.txMode = .idle →
      s₁.pendingPriTx = none → s₁.pendingSecTx = none → Buffered s₁ := by
    intro s₁ hlog hmode hpri hsec
    have hbuffers : s₁.buffers =
        { s.buffers with inFlight := none, pending := fun _ => false } := by
      rw [buffers, hlog]
      exact bufferObserver.after_concat _ _ _
    have hnone : ∀ primary, s₁.pendingTx primary = none := by
      intro primary
      cases primary
      · exact hsec
      · exact hpri
    refine ⟨?_, fun primary => ?_, fun primary => ?_, fun primary size hsize => ?_⟩
    · rw [hlog]
      exact bufferObserver.accepts_concat h.accepted trivial
    · rw [hbuffers, hmode]
      exact ⟨nofun, fun hof => absurd hof.symm (of_ne_idle primary)⟩
    · rw [hbuffers, hnone]
      rfl
    · rw [hnone] at hsize
      cases hsize
  exact (hdown _ rfl rfl rfl rfl).post _

/-- What is started goes into a buffer that is free. -/
theorem Buffered.start (h : Buffered s) (hst : Steady s) (hs : Start s s') : Buffered s' := by
  have hfree : s.pPriState = .idle → s.awaits true = false := by
    intro hidle
    rw [← hst.primary, hidle]
    rfl
  cases hs with
  | take segments honline hnone =>
    have hset : Buffered (s.setSegments segments) :=
      h.of_same ⟨rfl, fun _ => rfl, fun _ => rfl, rfl⟩
    exact hset.note fun _ => ⟨trivial, rfl⟩
  | requestStatus hidle hdue =>
    have htransmit : Buffered (({ s with keepAliveTimeout := false }).transmit true
        (requestFrame s.config)) := by
      refine h.transmits hst.orderly (hfree hidle) _ ?_ _
      exact ⟨rfl, fun _ => rfl, fun _ => rfl, rfl⟩
    exact (htransmit.note (e := .keepAliveInitiated) fun _ => ⟨trivial, rfl⟩).of_same
      ⟨rfl, fun _ => rfl, fun _ => rfl, rfl⟩
  | confirmed segments hidle hsegments hconfirms hreset =>
    have htransmit : Buffered (s.resetRetry.transmit true
        (confirmedFrame s.config s.nextWriteFCB segments.current)) := by
      refine h.transmits hst.orderly (hfree hidle) _ ?_ _
      exact ⟨rfl, fun _ => rfl, fun _ => rfl, rfl⟩
    exact htransmit.setPriState _
  | reset segments hidle hsegments hconfirms hreset =>
    have htransmit : Buffered (s.resetRetry.transmit true (resetFrame s.config)) := by
      refine h.transmits hst.orderly (hfree hidle) _ ?_ _
      exact ⟨rfl, fun _ => rfl, fun _ => rfl, rfl⟩
    exact htransmit.setPriState _
  | unconfirmed segments hidle hsegments hconfirms =>
    have htransmit := buffered_transmit h hst.orderly (hfree hidle)
      (unconfirmedFrame s.config segments.current)
    exact htransmit.setPriState _

/-- What an event does goes into a buffer that is free. -/
theorem Buffered.handles {e : Event} (h : Buffered s) (hst : Steady s) (hs : Handles s e s') :
    Buffered s' := by
  have hreleased : ∀ success, s.txMode = .primary → Buffered (s.released true success) :=
    fun success hmode =>
      buffered_released h hst.orderly (show s.txMode = .of true from hmode) success
  have hready : ∀ success, s.txMode = .primary → Ready (s.released true success) :=
    fun success hmode => hst.ready_released
      (hst.online_of_primary (by rw [hmode]; exact nofun)) hmode success
  have hwaits : s.pPriState.isResponseWait = true → s.awaits true = false := by
    intro hwait
    rw [← hst.primary]
    exact PriState.isTransmitWait_of_isResponseWait hwait
  have hanswers : s.pSecState.isTransmitWait = false → s.awaits false = false := by
    intro hwait
    rw [← hst.secondary]
    exact hwait
  have hheard : Buffered s.heard := h.of_same ⟨rfl, fun _ => rfl, fun _ => rfl, rfl⟩
  cases hs with
  | ignored => exact h
  | up sends hoff =>
    have hup : Buffered { s with isOnline := true, lastMessageTimestamp := s.now } :=
      h.of_same ⟨rfl, fun _ => rfl, fun _ => rfl, rfl⟩
    have hnoted := hup.note (e := .up) fun _ => ⟨trivial, rfl⟩
    have htimer : Buffered (({ s with
        isOnline := true, lastMessageTimestamp := s.now } : LinkContext).note
          .up).startKeepAliveTimer :=
      hnoted.of_same ⟨rfl, fun _ => rfl, fun _ => rfl, rfl⟩
    exact htimer.post _
  | down honline => exact h.shut
  | elapsed milliseconds => exact h.of_same ⟨rfl, fun _ => rfl, fun _ => rfl, rfl⟩
  | ran sends callback rest hcallbacks =>
    have hrest : Buffered { s with callbacks := rest } :=
      h.of_same ⟨rfl, fun _ => rfl, fun _ => rfl, rfl⟩
    exact hrest.note fun _ => ⟨trivial, rfl⟩
  | keepAlive hdue =>
    unfold rearmed
    split <;> exact h.of_same ⟨rfl, fun _ => rfl, fun _ => rfl, rfl⟩
  | awaiting state hmode hstate =>
    have hreleased' := hreleased true hmode
    generalize s.released true true = x at hreleased' ⊢
    exact hreleased'.of_same ⟨rfl, fun _ => rfl, fun _ => rfl, rfl⟩
  | notSent hmode hstate => exact (hreleased false hmode).completed false
  | notRequested hmode hstate =>
    exact (hreleased false hmode).setPriState .idle
  | unconfirmedNext success current next rest hmode hstate hsegments =>
    have hr := hready success hmode
    have htransmit : Buffered (((s.released true success).setSegments ⟨next, rest⟩).transmit true
        (unconfirmedFrame s.config next)) := by
      refine (hreleased success hmode).transmits hr.orderly hr.unqueued _ ?_ _
      exact ⟨rfl, fun _ => rfl, fun _ => rfl, rfl⟩
    exact htransmit.setPriState _
  | unconfirmedLast success current hmode hstate hsegments =>
    exact (hreleased success hmode).completed success
  | answered success hmode =>
    have hdone := buffered_released h hst.orderly (show s.txMode = .of false from hmode)
      success
    exact hdone.setSecState _
  | heard header userdata sends hadmits hunused => exact hheard
  | ackReset header userdata sends segments hadmits hfunc hstate hsegments =>
    have hnoted := hheard.note (e := .resetAcknowledged) fun _ => ⟨trivial, rfl⟩
    have htransmit : Buffered (s.resetHeard.transmit true
          (confirmedFrame s.config true segments.current)) := by
      refine hnoted.transmits ⟨hst.orderly.once, hst.orderly.free⟩
        (hwaits (by rw [hstate]; rfl)) _ ?_ _
      exact ⟨rfl, fun _ => rfl, fun _ => rfl, rfl⟩
    exact (htransmit.post (.onStateChange .reset)).setPriState _
  | ackNext header userdata sends current next rest hadmits hfunc hstate hsegments =>
    have hnoted := hheard.note (e := .acknowledged) fun _ => ⟨trivial, rfl⟩
    have htransmit : Buffered ((s.ackHeard.setSegments ⟨next, rest⟩).transmit true
          (confirmedFrame s.config (!s.nextWriteFCB) next)) := by
      refine hnoted.transmits ⟨hst.orderly.once, hst.orderly.free⟩
        (hwaits (by rw [hstate]; rfl)) _ ?_ _
      exact ⟨rfl, fun _ => rfl, fun _ => rfl, rfl⟩
    exact htransmit.setPriState _
  | ackLast header userdata sends current hadmits hfunc hstate hsegments =>
    have hnoted := hheard.note (e := .acknowledged) fun _ => ⟨trivial, rfl⟩
    have htoggled : Buffered s.ackHeard :=
      hnoted.of_same ⟨rfl, fun _ => rfl, fun _ => rfl, rfl⟩
    exact htoggled.completed true
  | refused header userdata sends hadmits hack hfunc hstate =>
    have hcancelled : Buffered s.heard.cancelTimer :=
      h.of_same ⟨rfl, fun _ => rfl, fun _ => rfl, rfl⟩
    exact hcancelled.completed false
  | nackFull header userdata sends hadmits hfunc hstate =>
    have hcancelled : Buffered (s.heard.postStatusCallback .unreset).cancelTimer :=
      (hheard.post _).of_same ⟨rfl, fun _ => rfl, fun _ => rfl, rfl⟩
    exact hcancelled.completed false
  | nackReset header userdata sends hadmits hfunc hstate =>
    have htransmit : Buffered
        ((s.heard.postStatusCallback .unreset).resetRetry.cancelTimer.transmit true
          (resetFrame s.config)) := by
      refine (hheard.post (.onStateChange .unreset)).transmits ⟨hst.orderly.once, hst.orderly.free⟩
        (hwaits (by rw [hstate]; rfl)) _ ?_ _
      exact ⟨rfl, fun _ => rfl, fun _ => rfl, rfl⟩
    exact htransmit.setPriState _
  | reported header userdata sends hadmits hfunc hstate =>
    have hcancelled : Buffered s.heard.cancelTimer :=
      h.of_same ⟨rfl, fun _ => rfl, fun _ => rfl, rfl⟩
    exact (hcancelled.note (e := .keepAliveSuccess) fun _ => ⟨trivial, rfl⟩).of_same
      ⟨rfl, fun _ => rfl, fun _ => rfl, rfl⟩
  | notReported header userdata sends hadmits hfunc hstate =>
    exact h.of_same ⟨rfl, fun _ => rfl, fun _ => rfl, rfl⟩
  | tested header userdata sends hadmits hfunc hstate hfcb =>
    have htransmit := buffered_transmit hheard ⟨hst.orderly.once, hst.orderly.free⟩
      (hanswers (by rw [hstate]; rfl)) (ackFrame s.config)
    generalize s.heard.transmit false (ackFrame s.config) = x at htransmit ⊢
    exact htransmit.of_same ⟨rfl, fun _ => rfl, fun _ => rfl, rfl⟩
  | reset header userdata sends hadmits hfunc hstate =>
    have htransmit := buffered_transmit hheard ⟨hst.orderly.once, hst.orderly.free⟩
      (hanswers hstate) (ackFrame s.config)
    generalize s.heard.transmit false (ackFrame s.config) = x at htransmit ⊢
    exact htransmit.of_same ⟨rfl, fun _ => rfl, fun _ => rfl, rfl⟩
  | requested header userdata sends hadmits hfunc hstate =>
    have htransmit := buffered_transmit hheard ⟨hst.orderly.once, hst.orderly.free⟩
      (hanswers hstate) (linkStatusFrame s.config)
    exact htransmit.setSecState _
  | accepted header userdata sends hadmits hfunc hstate hfcb =>
    have htransmit := buffered_transmit hheard ⟨hst.orderly.once, hst.orderly.free⟩
      (hanswers (by rw [hstate]; rfl)) (ackFrame s.config)
    generalize s.heard.transmit false (ackFrame s.config) = x at htransmit ⊢
    have htoggled : Buffered x.toggleReadFCB :=
      htransmit.of_same ⟨rfl, fun _ => rfl, fun _ => rfl, rfl⟩
    have hreceived := htoggled.note (e := .received userdata) fun _ => ⟨trivial, rfl⟩
    exact hreceived.setSecState _
  | repeated header userdata sends hadmits hfunc hstate hfcb =>
    have htransmit := buffered_transmit hheard ⟨hst.orderly.once, hst.orderly.free⟩
      (hanswers (by rw [hstate]; rfl)) (ackFrame s.config)
    exact htransmit.setSecState _
  | unconfirmed header userdata sends hadmits hfunc =>
    exact hheard.note fun _ => ⟨trivial, rfl⟩
  | resetRetried hdue hretry hstate =>
    have htransmit : Buffered (s.retried.transmit true (resetFrame s.config)) := by
      refine h.transmits hst.orderly (hwaits (by rw [hstate]; rfl)) _ ?_ _
      exact ⟨rfl, fun _ => rfl, fun _ => rfl, rfl⟩
    exact htransmit.setPriState _
  | dataRetried segments hdue hretry hstate hsegments =>
    have htransmit : Buffered (s.retried.transmit true
        (confirmedFrame s.config s.nextWriteFCB segments.current)) := by
      refine h.transmits hst.orderly (hwaits (by rw [hstate]; rfl)) _ ?_ _
      exact ⟨rfl, fun _ => rfl, fun _ => rfl, rfl⟩
    exact htransmit.setPriState _
  | resetExpired hdue hretry hstate =>
    have hexpired : Buffered s.expired := h.of_same ⟨rfl, fun _ => rfl, fun _ => rfl, rfl⟩
    exact hexpired.completed false
  | dataExpired hdue hretry hstate =>
    have hexpired : Buffered s.expired := h.of_same ⟨rfl, fun _ => rfl, fun _ => rfl, rfl⟩
    exact (hexpired.post _).completed false
  | requestExpired hdue hstate =>
    have hexpired : Buffered s.expired := h.of_same ⟨rfl, fun _ => rfl, fun _ => rfl, rfl⟩
    exact (hexpired.note (e := .keepAliveFailure) fun _ => ⟨trivial, rfl⟩).of_same
      ⟨rfl, fun _ => rfl, fun _ => rfl, rfl⟩

theorem Buffered.starts (h : Buffered s) (hst : Steady s) (hs : Starts s s') : Buffered s' := by
  suffices hboth : Steady s' ∧ Buffered s' from hboth.2
  induction hs with
  | refl => exact ⟨hst, h⟩
  | tail _ hstart ih => exact ⟨ih.1.start hstart, ih.2.start ih.1 hstart⟩

theorem Buffered.step (h : Buffered s) (hst : Steady s) (e : Event) : Buffered (s.step e) := by
  obtain ⟨s₁, hhandles, hstarts⟩ := handled_step hst e
  exact (h.handles hst hhandles).starts (hst.handles hhandles) hstarts

/-- A link whose idle primary station has nothing to do stays so. -/
theorem Served.step (h : Served s) (e : Event) : Served (s.step e) := by
  cases e with
  | lowerLayerUp sends =>
    change Served (s.onLowerLayerUp sends)
    unfold onLowerLayerUp
    split
    next => exact h
    next =>
      refine Served.sends ?_ sends
      exact ⟨h.segments, h.keepAlive⟩
  | lowerLayerDown =>
    change Served s.onLowerLayerDown
    unfold onLowerLayerDown
    split
    next => exact ⟨fun _ => rfl, fun _ => rfl⟩
    next => exact h
  | send segments => exact h.send segments
  | frame header userdata sends =>
    change Served (s.onFrame header userdata sends)
    unfold onFrame
    split
    next => exact served_tryStartTransmission _
    next s₁ hframe =>
      unfold onFrameContext at hframe
      split at hframe
      next => cases hframe; exact h
      next =>
        split at hframe
        next => cases hframe; exact h
        next =>
          unfold handleFrame at hframe
          split at hframe <;> cases hframe
          exact ⟨h.segments, h.keepAlive⟩
  | transmitResult success =>
    change Served (s.onTransmitResult success)
    unfold onTransmitResult
    split
    next => exact served_tryStartTransmission _
    next s₁ hresult =>
      unfold onTransmitResultContext at hresult
      split at hresult <;> cases hresult
      exact h
  | responseTimeout =>
    change Served (if s.isDue s.rspTimeoutTimer then s.onResponseTimeout else s)
    split
    next => exact served_tryStartTransmission _
    next => exact h
  | keepAliveTimeout =>
    change Served (if s.isDue s.keepAliveTimer then s.onKeepAliveTimeout else s)
    split
    next => exact served_tryStartTransmission _
    next => exact h
  | runPosted sends =>
    change Served (s.runPosted sends)
    unfold runPosted
    split
    next => exact h
    next => exact ⟨h.segments, h.keepAlive⟩
    next =>
      refine Served.sends ?_ sends
      exact ⟨h.segments, h.keepAlive⟩
  | elapse milliseconds => exact ⟨h.segments, h.keepAlive⟩

/-- The stations fit the frames of the log, and whatever may be started has been. -/
structure Consistent (s : LinkContext) : Prop where
  /-- The buffers are used one at a time, and hold their frames until these are transmitted. -/
  accepted : bufferObserver.Accepts .initial s.log
  primary : s.pPriState.isTransmitWait = true ↔ s.buffers.holds true
  secondary : s.pSecState.isTransmitWait = true ↔ s.buffers.holds false
  timer : s.rspTimeoutTimer.isSome = s.pPriState.isResponseWait
  served : Served s

/-- In every run of a link a station waits for the transmitter exactly while a frame of it is with
the router or pending, no buffer is formatted while its frame is, what the router is given is the
frame that was formatted last, the response timer runs exactly while a reply is awaited, and an idle
primary station has neither segments nor a keep-alive to send. -/
theorem always_consistent (config : LinkConfig) (now : Int) (events : List Event) :
    Always step Consistent (initial config now) events := by
  have hinvariant : Always step (fun s => Steady s ∧ Buffered s ∧ Served s) (initial config now)
      events := by
    refine always_keeps ?_ events ⟨steady_initial config now, buffered_initial config now,
      ⟨fun _ => rfl, fun _ => rfl⟩⟩
    rintro s e ⟨hsteady, hbuffered, hserved⟩
    exact ⟨hsteady.step e, hbuffered.step hsteady e, hserved.step e⟩
  refine hinvariant.imp ?_
  rintro s ⟨hsteady, hbuffered, hserved⟩
  refine ⟨hbuffered.accepted, ?_, ?_, hsteady.timer, hserved⟩
  · rw [hsteady.primary, hbuffered.holds_iff]
  · rw [hsteady.secondary, hbuffered.holds_iff]

end LinkContext
end Link
end Dnp3
