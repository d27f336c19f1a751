import Dnp3.Link.TransmitBuffers

/-!
# The messages a link sends

An observer of the log follows the message that is being sent, by the segments that are not done.
It allows a message to be taken only while the link is online and none is being sent; a frame with
user data only to carry the first segment that is not done, confirmed user data moreover only when
the other end was reset since the link came up, with a frame count bit that is set after the reset
and flips with each segment that is acknowledged; a result only for a message that is being sent, a
positive one only when no segment is left; and callbacks to run in the order they were posted.

Unconfirmed segments are done when their frame has been transmitted, whatever the result of the
transmission: only that of the last segment is the result of the message.
-/

namespace Dnp3
namespace Link

open Library Relation

/-! ## Observers that do not watch the transmitter -/

namespace LinkContext

section Reads

variable {β : Type} {O : Observer β LinkEntry} {init b : β} {s s' : LinkContext}

/-- The observer accepts the log and has these books after it. -/
def Reads (O : Observer β LinkEntry) (init : β) (s : LinkContext) (b : β) : Prop :=
  O.Accepts init s.log ∧ O.after init s.log = b

/-- It does not matter when a frame is given to the router. -/
structure NotWatched (O : Observer β LinkEntry) : Prop where
  pending : ∀ b primary, O.allows b (.pending primary) ∧ O.next b (.pending primary) = b
  begun : ∀ b primary bytes,
    O.allows b (.beginTransmit primary bytes) ∧ O.next b (.beginTransmit primary bytes) = b

theorem Reads.note (h : Reads O init s b) {e : LinkEntry} (he : O.allows b e) :
    Reads O init (s.note e) (O.next b e) := by
  obtain ⟨haccepts, hafter⟩ := h
  refine ⟨O.accepts_concat haccepts (by rwa [hafter]), ?_⟩
  exact (O.after_concat init s.log e).trans (by rw [hafter])

theorem Reads.of_log (h : Reads O init s b) (hlog : s'.log = s.log) : Reads O init s' b := by
  unfold Reads
  rwa [hlog]

theorem Reads.post (h : Reads O init s b) {callback : Posted} (he : O.allows b (.posted callback)) :
    Reads O init (s.post callback) (O.next b (.posted callback)) :=
  Reads.note (s := { s with callbacks := s.callbacks ++ [callback] }) h he

theorem Reads.completed (h : Reads O init s b) {success : Bool}
    (he : O.allows b (.posted (.onSendResult success))) :
    Reads O init (s.completed success) (O.next b (.posted (.onSendResult success))) :=
  Reads.post (s := { s with pSegments := none }) h he

theorem Reads.beginTransmit (h : Reads O init s b) (hO : NotWatched O) (size : Nat)
    (primary : Bool) : Reads O init (s.beginTransmit size primary) b := by
  obtain ⟨hallowed, hnext⟩ := hO.begun b primary ((s.txBuffer primary).take size)
  have hnoted := h.note hallowed
  rwa [hnext] at hnoted

/-- A frame that the observer does not watch. -/
theorem Reads.transmit (h : Reads O init s b) (hO : NotWatched O) {primary : Bool} {frame : Format}
    (he : O.allows b (.formatted primary frame)) :
    Reads O init (s.transmit primary frame) (O.next b (.formatted primary frame)) := by
  have hformat : Reads O init (s.format primary frame).1
      (O.next b (.formatted primary frame)) := by
    cases primary
    · exact Reads.note (s := { s with secTxBuffer := _ }) h he
    · exact Reads.note (s := { s with priTxBuffer := _ }) h he
  unfold LinkContext.transmit queueTransmit
  split
  · exact Reads.beginTransmit (s := { (s.format primary frame).1 with txMode := _ }) hformat hO _ _
  · obtain ⟨hallowed, hnext⟩ := hO.pending (O.next b (.formatted primary frame)) primary
    have hset := hformat.of_log (log_setPendingTx _ primary (some (s.format primary frame).2))
    have hnoted := hset.note hallowed
    rwa [hnext] at hnoted

theorem Reads.tryPendingTx (h : Reads O init s b) (hO : NotWatched O) (primary : Bool) :
    Reads O init (s.tryPendingTx primary) b := by
  unfold LinkContext.tryPendingTx
  split
  · exact (h.beginTransmit hO _ primary).of_log (log_setPendingTx _ primary none)
  · exact h

theorem Reads.released (h : Reads O init s b) (hO : NotWatched O) {primary success : Bool}
    (he : O.allows b (.transmitResult primary success)) :
    Reads O init (s.released primary success) (O.next b (.transmitResult primary success)) := by
  have hfreed := Reads.note (s := { s with txMode := .idle }) h he
  exact (hfreed.tryPendingTx hO false).tryPendingTx hO true

end Reads
end LinkContext

/-! ## Confirmed user data -/

namespace PriState

/-- Confirmed user data is sent. -/
def sendsConfirmed : PriState → Bool
  | confUserDataTransmitWait | confDataWait => true
  | _ => false

theorem sendsConfirmed_awaited {state state' : PriState} (h : state.awaited = some state') :
    state'.sendsConfirmed = state.sendsConfirmed := by
  cases state <;> cases h <;> rfl

end PriState

namespace LinkContext

variable {s s' : LinkContext}

/-- Confirmed user data is sent only when the other end was reset. -/
def ResetFirst (s : LinkContext) : Prop :=
  s.pPriState.sendsConfirmed = true → s.isRemoteReset = true

/-- The other end stays reset, or no confirmed user data is sent. -/
theorem ResetFirst.of_keeps (h : ResetFirst s) (hreset : s'.isRemoteReset = s.isRemoteReset)
    (hstate : s'.pPriState.sendsConfirmed = true → s.pPriState.sendsConfirmed = true) :
    ResetFirst s' := fun hsends => hreset.trans (h (hstate hsends))

theorem ResetFirst.start (h : ResetFirst s) (hs : Start s s') : ResetFirst s' := by
  cases hs with
  | take => exact h
  | requestStatus => exact nofun
  | confirmed segments hidle hsegments hconfirms hreset =>
    intro _
    exact (s.resetRetry.keepsStations_transmit true _).isRemoteReset.trans hreset
  | reset => exact nofun
  | unconfirmed => exact nofun

theorem ResetFirst.answer (h : ResetFirst s) (frame : Format) :
    ResetFirst (s.heard.transmit false frame) := by
  have hkeeps := s.heard.keepsStations_transmit false frame
  refine h.of_keeps hkeeps.isRemoteReset fun hsends => ?_
  rw [hkeeps.pPriState] at hsends
  exact hsends

/-- Confirmed data is sent only after a reset. -/
theorem ResetFirst.handles {e : Event} (h : ResetFirst s) (hs : Handles s e s') :
    ResetFirst s' := by
  cases hs with
  | ignored | up | elapsed | ran | heard | unconfirmed => exact h
  | keepAlive =>
    unfold rearmed
    split <;> exact h
  | awaiting state hmode hstate =>
    exact h.of_keeps (s.keepsStations_released true true).isRemoteReset fun hsends =>
      (PriState.sendsConfirmed_awaited hstate).symm.trans hsends
  | answered success =>
    have hkeeps := s.keepsStations_released false success
    exact h.of_keeps hkeeps.isRemoteReset fun hsends => hkeeps.pPriState ▸ hsends
  | ackReset header userdata sends segments =>
    intro _
    exact (s.resetHeard.keepsStations_transmit true _).isRemoteReset
  | ackNext header userdata sends current next rest hadmits hfunc hstate hsegments =>
    have hkeeps := (s.ackHeard.setSegments ⟨next, rest⟩).keepsStations_transmit true
      (confirmedFrame s.config (!s.nextWriteFCB) next)
    generalize (s.ackHeard.setSegments ⟨next, rest⟩).transmit true
      (confirmedFrame s.config (!s.nextWriteFCB) next) = x at hkeeps ⊢
    have hreset := hkeeps.isRemoteReset.trans s.isRemoteReset_ackHeard
    refine h.of_keeps hreset fun _ => ?_
    rw [hstate]
    rfl
  | tested | reset | accepted | repeated =>
    have hanswer := h.answer (ackFrame s.config)
    generalize s.heard.transmit false (ackFrame s.config) = x at hanswer ⊢
    exact hanswer
  | requested =>
    have hanswer := h.answer (linkStatusFrame s.config)
    generalize s.heard.transmit false (linkStatusFrame s.config) = x at hanswer ⊢
    exact hanswer
  | dataRetried segments hdue hretry hstate hsegments =>
    refine h.of_keeps ((s.retried.keepsStations_transmit true _).isRemoteReset) fun _ => ?_
    rw [hstate]
    rfl
  | _ => exact nofun

end LinkContext

/-! ## The observer of messages -/

/-- What the observer knows of the message that is being sent. -/
structure MessageBooks where
  up : Bool
  /-- The segments that are not done of the message that is being sent. -/
  message : Option (List UserData)
  /-- The next frame count bit, once the other end was reset. -/
  fcb : Option Bool
  /-- The primary frame that was formatted last has unconfirmed user data. -/
  unconfirmed : Bool
  /-- The result of the last transmission of a primary frame. -/
  success : Bool
  callbacks : List Posted

namespace MessageBooks

/-- The layer is down, and nothing is being sent. -/
def initial : MessageBooks where
  up := false
  message := none
  fcb := none
  unconfirmed := false
  success := false
  callbacks := []

/-- The first segment that is not done. -/
def isNext (b : MessageBooks) (data : UserData) : Prop := ∃ rest, b.message = some (data :: rest)

/-- What a frame of the primary station may carry. -/
def AllowsFrame (b : MessageBooks) : Format → Prop
  | .confirmedUserData _ fcb _ _ data => b.fcb = some fcb ∧ b.isNext data
  | .unconfirmedUserData _ _ _ data => b.isNext data
  | .resetLinkStates _ _ _ => ∃ data, b.isNext data
  | _ => True

/-- The entries that a layer may make with such books. -/
def Allows (b : MessageBooks) : LinkEntry → Prop
  | .up => b.up = false
  | .down => b.up = true
  | .sending _ => b.up = true ∧ b.message = none
  | .formatted true frame => b.AllowsFrame frame
  | .acknowledged => b.fcb ≠ none ∧ ∃ data, b.isNext data
  | .posted (.onSendResult success) => ∃ segments, b.message = some segments ∧
      (success = true → segments = [] ∧ (b.unconfirmed = true → b.success = true))
  | .ran callback => ∃ rest, b.callbacks = callback :: rest
  | _ => True

/-- The frame has user data that is not acknowledged. -/
def isUnconfirmed : Format → Bool
  | .unconfirmedUserData _ _ _ _ => true
  | _ => false

/-- A segment is done. -/
def advance (b : MessageBooks) : MessageBooks := { b with message := b.message.map List.tail }

/-- A segment was acknowledged. -/
def acknowledge (b : MessageBooks) : MessageBooks :=
  { b with message := b.message.map List.tail, fcb := b.fcb.map not }

/-- The books with an entry read. -/
def next (b : MessageBooks) : LinkEntry → MessageBooks
  | .up => { b with up := true }
  | .down => { b with up := false, message := none, fcb := none }
  | .sending segments => { b with message := some segments }
  | .formatted true frame => { b with unconfirmed := isUnconfirmed frame }
  | .transmitResult true success =>
    if b.unconfirmed then { b.advance with success := success } else { b with success := success }
  | .resetAcknowledged => { b with fcb := some true }
  | .acknowledged => b.acknowledge
  | .posted callback => { b with
      message := match callback with
        | .onSendResult _ => none
        | .onStateChange _ => b.message
      callbacks := b.callbacks ++ [callback] }
  | .ran _ => { b with callbacks := b.callbacks.tail }
  | _ => b

end MessageBooks

/-- The observer of messages, from the books and what they allow. -/
def messageObserver : Observer MessageBooks LinkEntry where
  allows := MessageBooks.Allows
  next := MessageBooks.next

theorem notWatched_messageObserver : LinkContext.NotWatched messageObserver where
  pending := fun _ _ => ⟨trivial, rfl⟩
  begun := fun _ _ _ => ⟨trivial, rfl⟩

namespace LinkContext

variable {s s' : LinkContext} {b : MessageBooks}

/-- The books are those of the link. -/
structure Tells (b : MessageBooks) (s : LinkContext) : Prop where
  up : b.up = s.isOnline
  message : b.message = s.pSegments.map Segments.toList
  fcb : b.fcb = if s.isRemoteReset then some s.nextWriteFCB else none
  callbacks : b.callbacks = s.callbacks

/-- The primary frame that was formatted last is the one the station is at. -/
def AtFrame (b : MessageBooks) (s : LinkContext) : Prop :=
  s.pPriState ≠ .idle → b.unconfirmed = decide (s.pPriState = .sendUnconfirmedTransmitWait)

/-- The observer has read the log and knows the link. -/
def Told (s : LinkContext) : Prop :=
  ∃ b, Reads messageObserver .initial s b ∧ Tells b s ∧ AtFrame b s

theorem told_initial (config : LinkConfig) (now : Int) : Told (initial config now) :=
  ⟨.initial, ⟨trivial, rfl⟩, ⟨rfl, rfl, rfl, rfl⟩, fun h => absurd rfl h⟩

theorem Tells.isNext (h : Tells b s) {segments : Segments} (hs : s.pSegments = some segments) :
    b.isNext segments.current := ⟨segments.rest, by rw [h.message, hs]; rfl⟩

theorem Tells.fcb_of_reset (h : Tells b s) (hreset : s.isRemoteReset = true) :
    b.fcb = some s.nextWriteFCB := by rw [h.fcb, if_pos hreset]

theorem Tells.keeps (h : Tells b s) (hk : KeepsStations s s') : Tells b s' where
  up := h.up.trans hk.isOnline.symm
  message := by rw [hk.pSegments, h.message]
  fcb := by rw [hk.isRemoteReset, hk.nextWriteFCB, h.fcb]
  callbacks := h.callbacks.trans hk.callbacks.symm

/-- States that the observer cannot tell apart. -/
structure SameMessages (s s' : LinkContext) : Prop where
  log : s'.log = s.log
  isOnline : s'.isOnline = s.isOnline
  pSegments : s'.pSegments = s.pSegments
  isRemoteReset : s'.isRemoteReset = s.isRemoteReset
  nextWriteFCB : s'.nextWriteFCB = s.nextWriteFCB
  callbacks : s'.callbacks = s.callbacks
  pPriState : s'.pPriState = s.pPriState

theorem Told.of_same (h : Told s) (hs : SameMessages s s') : Told s' := by
  obtain ⟨b, hreads, htells, hframe⟩ := h
  refine ⟨b, hreads.of_log hs.log, ⟨?_, ?_, ?_, ?_⟩, ?_⟩
  · exact htells.up.trans hs.isOnline.symm
  · rw [hs.pSegments, htells.message]
  · rw [hs.isRemoteReset, hs.nextWriteFCB, htells.fcb]
  · exact htells.callbacks.trans hs.callbacks.symm
  · unfold AtFrame
    rw [hs.pPriState]
    exact hframe

/-- The primary station transmits a frame. -/
theorem told_transmit (hreads : Reads messageObserver .initial s b) (htells : Tells b s)
    (frame : Format) (hallows : b.AllowsFrame frame) (state : PriState)
    (hstate : MessageBooks.isUnconfirmed frame =
      decide (state = .sendUnconfirmedTransmitWait)) :
    Told ((s.transmit true frame).setPriState state) := by
  have hallows' : messageObserver.allows b (.formatted true frame) := hallows
  have hkept := htells.keeps (s.keepsStations_transmit true frame)
  exact ⟨_, hreads.transmit notWatched_messageObserver hallows',
    ⟨hkept.up, hkept.message, hkept.fcb, hkept.callbacks⟩, fun _ => hstate⟩

/-- The primary station is done, but for a message. -/
theorem told_idle (hreads : Reads messageObserver .initial s b) (htells : Tells b s) :
    Told (s.setPriState .idle) :=
  ⟨b, hreads, ⟨htells.up, htells.message, htells.fcb, htells.callbacks⟩, fun h => absurd rfl h⟩

/-- A message is over. -/
theorem told_completed (hreads : Reads messageObserver .initial s b) (hup : b.up = s.isOnline)
    (hfcb : b.fcb = if s.isRemoteReset then some s.nextWriteFCB else none)
    (hcallbacks : b.callbacks = s.callbacks) {success : Bool}
    (hallows : b.Allows (.posted (.onSendResult success))) : Told (s.completed success) := by
  refine ⟨_, hreads.completed hallows, ⟨hup, rfl, hfcb, ?_⟩, fun h => absurd rfl h⟩
  change b.callbacks ++ [_] = s.callbacks ++ [_]
  rw [hcallbacks]

/-- The secondary station transmits a frame. -/
theorem Told.answer (h : Told s) (frame : Format) : Told (s.transmit false frame) := by
  obtain ⟨b, hreads, htells, hframe⟩ := h
  have hkeeps := s.keepsStations_transmit false frame
  have hallows : messageObserver.allows b (.formatted false frame) := trivial
  refine ⟨b, hreads.transmit notWatched_messageObserver hallows, htells.keeps hkeeps, ?_⟩
  unfold AtFrame
  rw [hkeeps.pPriState]
  exact hframe

theorem Told.note (h : Told s) {e : LinkEntry}
    (he : ∀ b : MessageBooks, b.Allows e ∧ b.next e = b) :
    Told (s.note e) := by
  obtain ⟨b, hreads, htells, hframe⟩ := h
  have hnoted := hreads.note (he b).1
  rw [show messageObserver.next b e = b from (he b).2] at hnoted
  exact ⟨b, hnoted, ⟨htells.up, htells.message, htells.fcb, htells.callbacks⟩, hframe⟩

theorem Told.postStatus (h : Told s) (status : LinkStatus) :
    Told (s.postStatusCallback status) := by
  obtain ⟨b, hreads, htells, hframe⟩ := h
  have hallows : messageObserver.allows b (.posted (.onStateChange status)) := trivial
  refine ⟨_, hreads.post hallows, ⟨htells.up, htells.message, htells.fcb, ?_⟩, hframe⟩
  change b.callbacks ++ [_] = s.callbacks ++ [_]
  rw [htells.callbacks]

/-! ## Links -/

/-- What is started is what the observer expects next. -/
theorem Told.start (h : Told s) (hs : Start s s') : Told s' := by
  obtain ⟨b, hreads, htells, hframe⟩ := h
  cases hs with
  | take segments honline hfree =>
    have hallows : messageObserver.allows b (.sending segments.toList) :=
      ⟨htells.up.trans honline, by rw [htells.message, hfree]; rfl⟩
    exact ⟨_, Reads.note (s := s.setSegments segments) hreads hallows,
      ⟨htells.up, rfl, htells.fcb, htells.callbacks⟩, hframe⟩
  | requestStatus hidle hdue =>
    have hrequested : Told ((({ s with keepAliveTimeout := false }).transmit true
        (requestFrame s.config)).setPriState .requestLinkStatusTransmitWait) :=
      told_transmit (s := { s with keepAliveTimeout := false }) hreads
        ⟨htells.up, htells.message, htells.fcb, htells.callbacks⟩ (requestFrame s.config) trivial
        _ rfl
    exact hrequested.note (e := .keepAliveInitiated) fun _ => ⟨trivial, rfl⟩
  | confirmed segments hidle hsegments hconfirms hreset =>
    exact told_transmit (s := s.resetRetry) hreads
      ⟨htells.up, htells.message, htells.fcb, htells.callbacks⟩
      (confirmedFrame s.config s.nextWriteFCB segments.current)
      ⟨htells.fcb_of_reset hreset, htells.isNext hsegments⟩ _ rfl
  | reset segments hidle hsegments hconfirms hreset =>
    exact told_transmit (s := s.resetRetry) hreads
      ⟨htells.up, htells.message, htells.fcb, htells.callbacks⟩
      (resetFrame s.config) ⟨_, htells.isNext hsegments⟩ _ rfl
  | unconfirmed segments hidle hsegments hconfirms =>
    exact told_transmit hreads htells (unconfirmedFrame s.config segments.current)
      (htells.isNext hsegments) _ rfl

/-- A message that is being sent may fail. -/
theorem Tells.allows_failure (h : Tells b s) (hs : s.pSegments.isSome = true) :
    b.Allows (.posted (.onSendResult false)) := by
  obtain ⟨segments, hsegments⟩ := Option.isSome_iff_exists.mp hs
  exact ⟨segments.toList, by rw [h.message, hsegments]; rfl, nofun⟩

/-- A message fails. -/
theorem told_failed (hreads : Reads messageObserver .initial s b) (h : Tells b s)
    (hs : s.pSegments.isSome = true) : Told (s.completed false) :=
  told_completed hreads h.up h.fcb h.callbacks (h.allows_failure hs)

/-- The observer reads the result of a primary frame, with the state as it was before. -/
theorem told_released (h : Told s) (success : Bool) : ∃ b,
    Reads messageObserver .initial (s.released true success)
      (b.next (.transmitResult true success)) ∧
    Tells b (s.released true success) ∧ AtFrame b s := by
  obtain ⟨b, hreads, htells, hframe⟩ := h
  have hallows : messageObserver.allows b (.transmitResult true success) := trivial
  exact ⟨b, hreads.released notWatched_messageObserver hallows,
    htells.keeps (s.keepsStations_released true success), hframe⟩

/-- A frame without unconfirmed user data leaves the segments alone when it was transmitted. -/
theorem next_transmitResult (hframe : b.unconfirmed = false) (success : Bool) :
    b.next (.transmitResult true success) = { b with success := success } := by
  simp [MessageBooks.next, hframe]

theorem next_transmitResult_unconfirmed (hframe : b.unconfirmed = true) (success : Bool) :
    b.next (.transmitResult true success) = { b.advance with success := success } := by
  simp [MessageBooks.next, hframe]

theorem AtFrame.unconfirmed_eq_false (h : AtFrame b s) (hidle : s.pPriState ≠ .idle)
    (hstate : s.pPriState ≠ .sendUnconfirmedTransmitWait) : b.unconfirmed = false := by
  rw [h hidle, decide_eq_false_iff_not]
  exact hstate

/-- What an event does is what the observer allows. -/
theorem Told.handles {e : Event} (h : Told s) (hst : Steady s) (hfirst : ResetFirst s)
    (hs : Handles s e s') :
    Told s' := by
  have hheard : Told s.heard := h.of_same ⟨rfl, rfl, rfl, rfl, rfl, rfl, rfl⟩
  cases hs with
  | ignored => exact h
  | up sends hoff =>
    obtain ⟨b, hreads, htells, hframe⟩ := h
    have hallows : messageObserver.allows b .up := htells.up.trans hoff
    have hnoted := Reads.note
      (s := { s with isOnline := true, lastMessageTimestamp := s.now }) hreads hallows
    have hup : Told ((({ s with
        isOnline := true, lastMessageTimestamp := s.now }).note .up).startKeepAliveTimer) :=
      ⟨_, hnoted, ⟨rfl, htells.message, htells.fcb, htells.callbacks⟩, hframe⟩
    exact hup.postStatus .unreset
  | down honline =>
    obtain ⟨b, hreads, htells, hframe⟩ := h
    have hallows : messageObserver.allows b .down := htells.up.trans honline
    refine Told.postStatus ?_ .unreset
    refine ⟨_, Reads.note (b := b) ?_ hallows, ⟨rfl, rfl, rfl, htells.callbacks⟩,
      fun h => absurd rfl h⟩
    exact hreads
  | elapsed milliseconds => exact h.of_same ⟨rfl, rfl, rfl, rfl, rfl, rfl, rfl⟩
  | ran sends callback rest hcallbacks =>
    obtain ⟨b, hreads, htells, hframe⟩ := h
    have hallows : messageObserver.allows b (.ran callback) :=
      ⟨rest, htells.callbacks.trans hcallbacks⟩
    refine ⟨_, Reads.note (s := { s with callbacks := rest }) hreads hallows,
      ⟨htells.up, htells.message, htells.fcb, ?_⟩, hframe⟩
    change b.callbacks.tail = rest
    rw [htells.callbacks, hcallbacks]
    rfl
  | keepAlive hdue =>
    unfold rearmed
    split <;> exact h.of_same ⟨rfl, rfl, rfl, rfl, rfl, rfl, rfl⟩
  | awaiting state hmode hstate =>
    obtain ⟨b, hreads, htells, hframe⟩ := told_released h true
    have hframe' : b.unconfirmed = false := by
      refine hframe.unconfirmed_eq_false ?_ ?_ <;> intro hidle <;> rw [hidle] at hstate <;>
        cases hstate
    rw [next_transmitResult hframe'] at hreads
    refine ⟨_, hreads, ⟨htells.up, htells.message, htells.fcb, htells.callbacks⟩, fun _ => ?_⟩
    refine hframe'.trans (decide_eq_false ?_).symm
    rintro rfl
    revert hstate
    cases s.pPriState <;> exact nofun
  | notSent hmode hstate =>
    obtain ⟨b, hreads, htells, hframe⟩ := told_released h false
    have hframe' : b.unconfirmed = false := by
      rcases hstate with hstate | hstate <;>
        exact hframe.unconfirmed_eq_false (by rw [hstate]; exact nofun)
          (by rw [hstate]; exact nofun)
    rw [next_transmitResult hframe'] at hreads
    have hsome : s.pSegments.isSome = true :=
      hst.segments (by rcases hstate with hstate | hstate <;> rw [hstate] <;> rfl)
    rw [← (s.keepsStations_released true false).pSegments] at hsome
    exact told_failed hreads ⟨htells.up, htells.message, htells.fcb, htells.callbacks⟩ hsome
  | notRequested hmode hstate =>
    obtain ⟨b, hreads, htells, hframe⟩ := told_released h false
    have hframe' : b.unconfirmed = false :=
      hframe.unconfirmed_eq_false (by rw [hstate]; exact nofun) (by rw [hstate]; exact nofun)
    rw [next_transmitResult hframe'] at hreads
    exact told_idle hreads ⟨htells.up, htells.message, htells.fcb, htells.callbacks⟩
  | unconfirmedNext success current next rest hmode hstate hsegments =>
    obtain ⟨b, hreads, htells, hframe⟩ := told_released h success
    have hframe' : b.unconfirmed = true := by
      rw [hframe (by rw [hstate]; exact nofun), hstate]
      rfl
    rw [next_transmitResult_unconfirmed hframe'] at hreads
    have hmessage : b.message = some (current :: next :: rest) := by
      rw [htells.message, (s.keepsStations_released true success).pSegments, hsegments]
      rfl
    have hadvance : b.advance.message = some (next :: rest) := by
      rw [MessageBooks.advance, hmessage]
      rfl
    exact told_transmit (s := (s.released true success).setSegments ⟨next, rest⟩) hreads
      ⟨htells.up, hadvance, htells.fcb, htells.callbacks⟩ (unconfirmedFrame s.config next)
      ⟨rest, hadvance⟩ _ rfl
  | unconfirmedLast success current hmode hstate hsegments =>
    obtain ⟨b, hreads, htells, hframe⟩ := told_released h success
    have hframe' : b.unconfirmed = true := by
      rw [hframe (by rw [hstate]; exact nofun), hstate]
      rfl
    rw [next_transmitResult_unconfirmed hframe'] at hreads
    have hmessage : b.message = some [current] := by
      rw [htells.message, (s.keepsStations_released true success).pSegments, hsegments]
      rfl
    have hadvance : b.advance.message = some [] := by
      rw [MessageBooks.advance, hmessage]
      rfl
    exact told_completed hreads htells.up htells.fcb htells.callbacks
      ⟨[], hadvance, fun hsuccess => ⟨rfl, fun _ => hsuccess⟩⟩
  | answered success hmode =>
    obtain ⟨b, hreads, htells, hframe⟩ := h
    have hallows : messageObserver.allows b (.transmitResult false success) := trivial
    have hkeeps := s.keepsStations_released false success
    have hkept := htells.keeps hkeeps
    refine ⟨b, hreads.released notWatched_messageObserver hallows,
      ⟨hkept.up, hkept.message, hkept.fcb, hkept.callbacks⟩, ?_⟩
    change AtFrame b (s.released false success)
    unfold AtFrame
    rw [hkeeps.pPriState]
    exact hframe
  | heard header userdata sends hadmits hunused => exact hheard
  | ackReset header userdata sends segments hadmits hfunc hstate hsegments =>
    obtain ⟨b, hreads, htells, hframe⟩ := hheard
    have hallows : messageObserver.allows b .resetAcknowledged := trivial
    have hreset : Reads messageObserver .initial s.resetHeard { b with fcb := some true } :=
      hreads.note hallows
    have htransmit := told_transmit hreset ⟨htells.up, htells.message, rfl, htells.callbacks⟩
      (confirmedFrame s.config true segments.current) ⟨rfl, htells.isNext hsegments⟩
      .confUserDataTransmitWait rfl
    exact htransmit.postStatus .reset
  | ackNext header userdata sends current next rest hadmits hfunc hstate hsegments =>
    obtain ⟨b, hreads, htells, hframe⟩ := hheard
    have hfcb : b.fcb = some s.nextWriteFCB := htells.fcb_of_reset (hfirst (by rw [hstate]; rfl))
    have hallows : messageObserver.allows b .acknowledged :=
      ⟨by rw [hfcb]; exact nofun, current, htells.isNext hsegments⟩
    have hacked : Reads messageObserver .initial (s.ackHeard.setSegments ⟨next, rest⟩)
        b.acknowledge := hreads.note hallows
    have hadvance : b.acknowledge.message = some (next :: rest) := by
      rw [MessageBooks.acknowledge, htells.message, show s.heard.pSegments = _ from hsegments]
      rfl
    have hreset : s.isRemoteReset = true := hfirst (by rw [hstate]; rfl)
    have hflipped : b.acknowledge.fcb = some !s.nextWriteFCB := by
      rw [MessageBooks.acknowledge, hfcb]
      rfl
    have htells' : Tells b.acknowledge (s.ackHeard.setSegments ⟨next, rest⟩) := by
      refine ⟨?_, hadvance, ?_, ?_⟩
      · exact htells.up.trans s.isOnline_ackHeard.symm
      · change _ = if s.ackHeard.isRemoteReset then some s.ackHeard.nextWriteFCB else none
        rw [isRemoteReset_ackHeard, nextWriteFCB_ackHeard, if_pos hreset, hflipped]
      · exact htells.callbacks.trans s.callbacks_ackHeard.symm
    exact told_transmit hacked htells' (confirmedFrame s.config (!s.nextWriteFCB) next)
      ⟨hflipped, rest, hadvance⟩ .confUserDataTransmitWait rfl
  | ackLast header userdata sends current hadmits hfunc hstate hsegments =>
    obtain ⟨b, hreads, htells, hframe⟩ := hheard
    have hreset : s.isRemoteReset = true := hfirst (by rw [hstate]; rfl)
    have hfcb : b.fcb = some s.nextWriteFCB := htells.fcb_of_reset hreset
    have hallows : messageObserver.allows b .acknowledged :=
      ⟨by rw [hfcb]; exact nofun, current, htells.isNext hsegments⟩
    have hacked : Reads messageObserver .initial s.ackHeard
        b.acknowledge := hreads.note hallows
    have hadvance : b.acknowledge.message = some [] := by
      rw [MessageBooks.acknowledge, htells.message, show s.heard.pSegments = _ from hsegments]
      rfl
    have hflipped : b.acknowledge.fcb =
        if s.isRemoteReset then some !s.nextWriteFCB else none := by
      rw [MessageBooks.acknowledge, hfcb, hreset]
      rfl
    have hconfirmed : b.unconfirmed = false := hframe.unconfirmed_eq_false
      (show s.pPriState ≠ .idle by rw [hstate]; exact nofun)
      (show s.pPriState ≠ .sendUnconfirmedTransmitWait by rw [hstate]; exact nofun)
    refine told_completed hacked htells.up hflipped htells.callbacks
      ⟨[], hadvance, fun _ => ⟨rfl, fun hunconfirmed => ?_⟩⟩
    exact absurd (hconfirmed.symm.trans hunconfirmed) Bool.noConfusion
  | refused header userdata sends hadmits hack hfunc hstate =>
    obtain ⟨b, hreads, htells, hframe⟩ := hheard
    refine told_failed (s := s.heard.cancelTimer) hreads
      ⟨htells.up, htells.message, htells.fcb, htells.callbacks⟩ (hst.segments ?_)
    rcases hstate with hstate | ⟨hstate, _⟩ <;> rw [hstate] <;> rfl
  | nackFull header userdata sends hadmits hfunc hstate =>
    obtain ⟨b, hreads, htells, hframe⟩ := hheard.postStatus .unreset
    exact told_failed (s := (s.heard.postStatusCallback .unreset).cancelTimer) hreads
      ⟨htells.up, htells.message, htells.fcb, htells.callbacks⟩
      (hst.segments (by rw [hstate]; rfl))
  | nackReset header userdata sends hadmits hfunc hstate =>
    obtain ⟨b, hreads, htells, hframe⟩ := hheard.postStatus .unreset
    obtain ⟨segments, hsegments⟩ := hst.exists_segments (by rw [hstate]; rfl)
    exact told_transmit (s := (s.heard.postStatusCallback .unreset).resetRetry.cancelTimer) hreads
      ⟨htells.up, htells.message, htells.fcb, htells.callbacks⟩ (resetFrame s.config)
      ⟨_, htells.isNext (show (s.heard.postStatusCallback .unreset).pSegments = _ from hsegments)⟩
      _ rfl
  | reported header userdata sends hadmits hfunc hstate =>
    obtain ⟨b, hreads, htells, hframe⟩ := hheard
    have hidle : Told (s.heard.cancelTimer.setPriState .idle) :=
      told_idle (s := s.heard.cancelTimer) hreads
        ⟨htells.up, htells.message, htells.fcb, htells.callbacks⟩
    exact hidle.note (e := .keepAliveSuccess) fun _ => ⟨trivial, rfl⟩
  | notReported header userdata sends hadmits hfunc hstate =>
    obtain ⟨b, hreads, htells, hframe⟩ := hheard
    exact told_idle (s := s.heard.cancelTimer) hreads
      ⟨htells.up, htells.message, htells.fcb, htells.callbacks⟩
  | tested header userdata sends hadmits hfunc hstate hfcb =>
    have hanswer := hheard.answer (ackFrame s.config)
    generalize s.heard.transmit false (ackFrame s.config) = x at hanswer ⊢
    exact hanswer.of_same ⟨rfl, rfl, rfl, rfl, rfl, rfl, rfl⟩
  | reset header userdata sends hadmits hfunc hstate =>
    have hanswer := hheard.answer (ackFrame s.config)
    generalize s.heard.transmit false (ackFrame s.config) = x at hanswer ⊢
    exact hanswer.of_same ⟨rfl, rfl, rfl, rfl, rfl, rfl, rfl⟩
  | requested header userdata sends hadmits hfunc hstate =>
    have hanswer := hheard.answer (linkStatusFrame s.config)
    generalize s.heard.transmit false (linkStatusFrame s.config) = x at hanswer ⊢
    exact hanswer.of_same ⟨rfl, rfl, rfl, rfl, rfl, rfl, rfl⟩
  | accepted header userdata sends hadmits hfunc hstate hfcb =>
    have hanswer := hheard.answer (ackFrame s.config)
    generalize s.heard.transmit false (ackFrame s.config) = x at hanswer ⊢
    have hreceived := hanswer.note (e := .received userdata) fun _ => ⟨trivial, rfl⟩
    exact hreceived.of_same ⟨rfl, rfl, rfl, rfl, rfl, rfl, rfl⟩
  | repeated header userdata sends hadmits hfunc hstate hfcb =>
    have hanswer := hheard.answer (ackFrame s.config)
    generalize s.heard.transmit false (ackFrame s.config) = x at hanswer ⊢
    exact hanswer.of_same ⟨rfl, rfl, rfl, rfl, rfl, rfl, rfl⟩
  | unconfirmed header userdata sends hadmits hfunc => exact hheard.note fun _ => ⟨trivial, rfl⟩
  | resetRetried hdue hretry hstate =>
    obtain ⟨b, hreads, htells, hframe⟩ := h
    obtain ⟨segments, hsegments⟩ := hst.exists_segments (by rw [hstate]; rfl)
    exact told_transmit (s := s.retried) hreads
      ⟨htells.up, htells.message, htells.fcb, htells.callbacks⟩ (resetFrame s.config)
      ⟨_, htells.isNext hsegments⟩ _ rfl
  | dataRetried segments hdue hretry hstate hsegments =>
    obtain ⟨b, hreads, htells, hframe⟩ := h
    have hfcb : b.fcb = some s.nextWriteFCB := htells.fcb_of_reset (hfirst (by rw [hstate]; rfl))
    exact told_transmit (s := s.retried) hreads
      ⟨htells.up, htells.message, htells.fcb, htells.callbacks⟩
      (confirmedFrame s.config s.nextWriteFCB segments.current)
      ⟨hfcb, htells.isNext hsegments⟩ _ rfl
  | resetExpired hdue hretry hstate =>
    obtain ⟨b, hreads, htells, hframe⟩ := h
    exact told_failed (s := s.expired) hreads
      ⟨htells.up, htells.message, htells.fcb, htells.callbacks⟩
      (hst.segments (by rw [hstate]; rfl))
  | dataExpired hdue hretry hstate =>
    have hexpired : Told s.expired := h.of_same ⟨rfl, rfl, rfl, rfl, rfl, rfl, rfl⟩
    obtain ⟨b, hreads, htells, hframe⟩ := hexpired.postStatus .unreset
    exact told_failed hreads htells (hst.segments (by rw [hstate]; rfl))
  | requestExpired hdue hstate =>
    obtain ⟨b, hreads, htells, hframe⟩ := h
    have hidle : Told (s.expired.setPriState .idle) :=
      told_idle (s := s.expired) hreads
        ⟨htells.up, htells.message, htells.fcb, htells.callbacks⟩
    exact hidle.note (e := .keepAliveFailure) fun _ => ⟨trivial, rfl⟩

/-- What holds of the messages in every state, also inside the methods of the link. -/
structure Sending (s : LinkContext) : Prop where
  steady : Steady s
  first : ResetFirst s
  told : Told s

theorem Sending.start (h : Sending s) (hs : Start s s') : Sending s' :=
  ⟨h.steady.start hs, h.first.start hs, h.told.start hs⟩

theorem Sending.starts (h : Sending s) (hs : Starts s s') : Sending s' := by
  induction hs with
  | refl => exact h
  | tail _ hstart ih => exact ih.start hstart

theorem Sending.step (h : Sending s) (e : Event) : Sending (s.step e) := by
  obtain ⟨s₁, hhandles, hstarts⟩ := handled_step h.steady e
  have hhandled : Sending s₁ :=
    ⟨h.steady.handles hhandles, h.first.handles hhandles,
      h.told.handles h.steady h.first hhandles⟩
  exact hhandled.starts hstarts

theorem sending_initial (config : LinkConfig) (now : Int) : Sending (initial config now) :=
  ⟨steady_initial config now, nofun, told_initial config now⟩

/-- The observer accepts the log, knows the message that is being sent, and knows of none when the
primary station is idle. -/
structure Accounted (s : LinkContext) : Prop where
  accepted : messageObserver.Accepts .initial s.log
  message : (messageObserver.after .initial s.log).message = s.pSegments.map Segments.toList
  idle : s.pPriState = .idle → (messageObserver.after .initial s.log).message = none

/-- In every run of a link each message that is taken is sent segment by segment, in order,
confirmed segments with alternating frame count bits after a reset; it gets one result, unless the
link goes offline first, and a positive one only when every segment was acknowledged or, without
confirmations, transmitted, the last one with success. -/
theorem always_accounted (config : LinkConfig) (now : Int) (events : List Event) :
    Always step Accounted (initial config now) events := by
  have hinvariant : Always step (fun s => Sending s ∧ Served s) (initial config now) events := by
    refine always_keeps ?_ events ⟨sending_initial config now, fun _ => rfl,
      fun _ => rfl⟩
    rintro s e ⟨hsending, hserved⟩
    exact ⟨hsending.step e, hserved.step e⟩
  refine hinvariant.imp ?_
  rintro s ⟨hsending, hserved⟩
  obtain ⟨b, ⟨haccepts, hafter⟩, htells, _⟩ := hsending.told
  refine ⟨haccepts, ?_, fun hidle => ?_⟩
  · rw [hafter, htells.message]
  · rw [hafter, htells.message, hserved.segments hidle]
    rfl

end LinkContext
end Link
end Dnp3
