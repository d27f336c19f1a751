import Dnp3.Link.KeepAlive

/-!
# The data a link passes up

The upper layer is given the user data of an unconfirmed frame when the link takes the frame, once
and whatever the upper layer sends while it takes the data; and nothing is passed up but user data
of frames that the link takes.

`passed` is what was passed up so far.  It grows only in the two events that bring user data for the
upper layer, by the data of that frame (`passed_step`), and it does grow for every unconfirmed frame
that a link takes while it is online (`passed_unconfirmed`).  Confirmed data is passed up under the
conditions on the frame count bit that `Link.LinkContext` has from the source.
`Transport.TransportStack` joins these facts with the parser below and the transport layer above.
-/

namespace Dnp3
namespace Link

open Library Relation

/-- The data the upper layer is given. -/
def LinkEntry.data : LinkEntry → Option (List UInt8)
  | .received data => some data
  | _ => none

namespace LinkContext

variable {s s' : LinkContext}

/-- All that was passed up so far. -/
def passed (s : LinkContext) : List (List UInt8) := s.log.filterMap LinkEntry.data

theorem passed_note (s : LinkContext) {e : LinkEntry} (he : e.data = none) :
    (s.note e).passed = s.passed := by
  change (s.log ++ [e]).filterMap LinkEntry.data = _
  rw [List.filterMap_append, List.filterMap_cons_none he]
  exact List.append_nil _

theorem passed_received (s : LinkContext) (data : List UInt8) :
    (s.note (.received data)).passed = s.passed ++ [data] := by
  change (s.log ++ [LinkEntry.received data]).filterMap LinkEntry.data = _
  rw [List.filterMap_append]
  rfl

theorem passed_format (s : LinkContext) (primary : Bool) (frame : Format) :
    (s.format primary frame).1.passed = s.passed := by
  cases primary <;> exact passed_note _ rfl

theorem passed_beginTransmit (s : LinkContext) (size : Nat) (primary : Bool) :
    (s.beginTransmit size primary).passed = s.passed := passed_note s rfl

theorem passed_setPendingTx (s : LinkContext) (primary : Bool) (pending : Option Nat) :
    (s.setPendingTx primary pending).passed = s.passed := by
  cases primary <;> rfl

/-- Neither frames that are sent nor results pass anything up. -/
theorem passed_transmit (s : LinkContext) (primary : Bool) (frame : Format) :
    (s.transmit primary frame).passed = s.passed := by
  rw [← s.passed_format primary frame]
  unfold transmit queueTransmit
  split
  · exact passed_beginTransmit _ _ primary
  · exact (passed_note _ rfl).trans (passed_setPendingTx _ primary _)

theorem passed_tryPendingTx (s : LinkContext) (primary : Bool) :
    (s.tryPendingTx primary).passed = s.passed := by
  unfold tryPendingTx
  split
  · exact (passed_setPendingTx _ primary none).trans (passed_beginTransmit s _ primary)
  · rfl

theorem passed_released (s : LinkContext) (primary success : Bool) :
    (s.released primary success).passed = s.passed := by
  unfold released
  rw [passed_tryPendingTx, passed_tryPendingTx]
  exact passed_note _ rfl

theorem passed_postStatusCallback (s : LinkContext) (status : LinkStatus) :
    (s.postStatusCallback status).passed = s.passed := passed_note _ rfl

theorem passed_completed (s : LinkContext) (success : Bool) :
    (s.completed success).passed = s.passed :=
  passed_note { s with
    pSegments := none
    callbacks := s.callbacks ++ [Posted.onSendResult success] } rfl

/-- What the link starts passes nothing up. -/
theorem passed_start (hs : Start s s') : s'.passed = s.passed := by
  cases hs with
  | take segments => exact passed_note (s.setSegments segments) rfl
  | requestStatus =>
    refine (passed_note _ rfl).trans ?_
    exact passed_transmit { s with keepAliveTimeout := false } true _
  | confirmed segments => exact passed_transmit s.resetRetry true _
  | reset segments => exact passed_transmit s.resetRetry true _
  | unconfirmed segments => exact passed_transmit s true _

theorem passed_starts (hs : Starts s s') : s'.passed = s.passed := by
  induction hs with
  | refl => rfl
  | tail _ hstart ih => exact (passed_start hstart).trans ih

/-- The events that bring no user data for the upper layer. -/
def PassesNothing (s : LinkContext) : Event → Prop
  | .frame header _ _ => s.admits header = false ∨
      header.func ≠ .priConfirmedUserData ∧ header.func ≠ .priUnconfirmedUserData
  | _ => True

theorem passed_handles {e : Event} (he : s.PassesNothing e) (hs : Handles s e s') :
    s'.passed = s.passed := by
  have hheard : s.heard.passed = s.passed := rfl
  cases hs with
  | ignored => rfl
  | up sends hoff =>
    refine (passed_postStatusCallback _ _).trans ?_
    exact passed_note { s with isOnline := true, lastMessageTimestamp := s.now } rfl
  | down honline =>
    refine (passed_postStatusCallback _ _).trans ?_
    exact passed_note _ rfl
  | elapsed milliseconds => rfl
  | ran sends callback rest hcallbacks => exact passed_note { s with callbacks := rest } rfl
  | keepAlive hdue => unfold rearmed; split <;> rfl
  | awaiting => exact s.passed_released true true
  | notSent => exact (passed_completed _ false).trans (s.passed_released true false)
  | notRequested => exact s.passed_released true false
  | unconfirmedNext success =>
    exact (passed_transmit _ true _).trans (s.passed_released true success)
  | unconfirmedLast success =>
    exact (passed_completed _ success).trans (s.passed_released true success)
  | answered success => exact s.passed_released false success
  | heard => exact hheard
  | ackReset header userdata sends segments =>
    refine (passed_postStatusCallback _ _).trans ?_
    exact (passed_transmit s.resetHeard true _).trans (passed_note s.heard rfl)
  | ackNext => exact (passed_transmit _ true _).trans (passed_note s.heard rfl)
  | ackLast => exact (passed_completed s.ackHeard true).trans (passed_note s.heard rfl)
  | refused => exact passed_completed s.heard.cancelTimer false
  | nackFull =>
    exact (passed_completed _ false).trans (passed_postStatusCallback s.heard _)
  | nackReset =>
    exact (passed_transmit _ true _).trans (passed_postStatusCallback s.heard _)
  | reported => exact passed_note s.heard.cancelTimer rfl
  | notReported => exact hheard
  | tested => exact passed_transmit s.heard false _
  | reset => exact passed_transmit s.heard false _
  | requested => exact passed_transmit s.heard false _
  | repeated => exact passed_transmit s.heard false _
  | accepted header userdata sends hadmits hfunc =>
    rcases he with hrejected | ⟨hother, -⟩
    · cases hadmits.symm.trans hrejected
    · exact absurd hfunc hother
  | unconfirmed header userdata sends hadmits hfunc =>
    rcases he with hrejected | ⟨-, hother⟩
    · cases hadmits.symm.trans hrejected
    · exact absurd hfunc hother
  | resetRetried => exact passed_transmit s.retried true _
  | dataRetried segments => exact passed_transmit s.retried true _
  | resetExpired => exact passed_completed s.expired false
  | dataExpired =>
    exact (passed_completed _ false).trans (passed_postStatusCallback s.expired _)
  | requestExpired => exact passed_note s.expired rfl

/-- **Only user data is passed up.** -/
theorem passed_step (hsteady : Steady s) {e : Event} (he : s.PassesNothing e) :
    (s.step e).passed = s.passed := by
  obtain ⟨s₁, hhandles, hstarts⟩ := handled_step hsteady e
  exact (passed_starts hstarts).trans (passed_handles he hhandles)

/-- **The data of an unconfirmed frame is passed up once**, whatever is sent meanwhile. -/
theorem passed_unconfirmed (hsteady : Steady s) {header : LinkHeaderFields} (userdata : List UInt8)
    (sends : List Segments) (hadmits : s.admits header = true)
    (hfunc : header.func = .priUnconfirmedUserData) :
    (s.step (.frame header userdata sends)).passed = s.passed ++ [userdata] := by
  obtain ⟨s₁, hhandles, hstarts⟩ := handled_step hsteady (.frame header userdata sends)
  rw [passed_starts hstarts]
  cases hhandles with
  | ignored _ hignored =>
    have hrejected : s.admits header = false := hignored
    cases hadmits.symm.trans hrejected
  | heard _ _ _ _ hunused =>
    refine absurd ?_ hunused
    unfold Uses
    rw [hfunc]
    trivial
  | unconfirmed => exact passed_received s.heard userdata
  | refused _ _ _ _ _ hsecondary =>
    rw [hfunc] at hsecondary
    cases hsecondary
  | notReported _ _ _ _ hsecondary =>
    rw [hfunc] at hsecondary
    cases hsecondary
  | ackReset _ _ _ _ _ hother => cases hfunc.symm.trans hother
  | ackNext _ _ _ _ _ _ _ hother => cases hfunc.symm.trans hother
  | ackLast _ _ _ _ _ hother => cases hfunc.symm.trans hother
  | nackFull _ _ _ _ hother => cases hfunc.symm.trans hother
  | nackReset _ _ _ _ hother => cases hfunc.symm.trans hother
  | reported _ _ _ _ hother => cases hfunc.symm.trans hother
  | tested _ _ _ _ hother => cases hfunc.symm.trans hother
  | reset _ _ _ _ hother => cases hfunc.symm.trans hother
  | requested _ _ _ _ hother => cases hfunc.symm.trans hother
  | accepted _ _ _ _ hother => cases hfunc.symm.trans hother
  | repeated _ _ _ _ hother => cases hfunc.symm.trans hother

/-! ## When the link is online -/

/-- Only the lower layer brings a link online or offline. -/
theorem isOnline_step (hsteady : Steady s) {e : Event} (hup : ∀ sends, e ≠ .lowerLayerUp sends)
    (hdown : e ≠ .lowerLayerDown) : (s.step e).isOnline = s.isOnline := by
  cases ticks_step hsteady e with
  | same _ _ hsame => exact hsame.isOnline
  | heard _ _ _ _ _ hsame => exact hsame.isOnline
  | up sends => exact absurd rfl (hup sends)
  | down => exact absurd rfl hdown
  | elapsed _ _ hsame => exact hsame.isOnline
  | keepAlive _ _ hsame =>
    refine hsame.isOnline.trans ?_
    unfold rearmed
    split <;> rfl

theorem isOnline_lowerLayerUp (hsteady : Steady s) (sends : List Segments) :
    (s.step (.lowerLayerUp sends)).isOnline = true := by
  obtain ⟨s₁, hhandles, hstarts⟩ := handled_step hsteady (.lowerLayerUp sends)
  refine (sameClock_starts hstarts).isOnline.trans ?_
  cases hhandles with
  | ignored _ honline => exact honline
  | up => rfl

theorem isOnline_lowerLayerDown (hsteady : Steady s) :
    (s.step .lowerLayerDown).isOnline = false := by
  obtain ⟨s₁, hhandles, hstarts⟩ := handled_step hsteady .lowerLayerDown
  refine (sameClock_starts hstarts).isOnline.trans ?_
  cases hhandles with
  | ignored _ hoff => exact hoff
  | down => rfl

end LinkContext
end Link
end Dnp3
