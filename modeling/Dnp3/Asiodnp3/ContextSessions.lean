import Dnp3.Asiodnp3.RouterFrames
import Dnp3.Link.TransmitBuffers

/-!
# The contexts behind the router

The router's model knows of a context only how it transmits, and leaves the frames to the
environment.  A link is such a context: what it does in a step to its transmitter and buffers is
what the router's model does with some frames, which the link transmits only while none of that
station is with the router or pending.

`session` is what the router's model sees of a link: whether it is online, which of its two buffers
is with the router, which one is pending, and the frames in them.  A step of the link is a call of
the router, or something that the link does by itself, followed by some transmissions (`Sends`);
`Steady.session_step` says that the session of the link then takes the step that the router's model
has for it.  So the environment of the router's model is one that links can play, and
`always_follows_session` states it for whole runs.
-/

namespace Dnp3
namespace Asiodnp3

open Library Link

/-! ## What a session does -/

attribute [ext] LinkSession

namespace LinkSession

/-- A frame is formatted and queued, as the router's model has it. -/
def transmit (x : LinkSession) (f : Link.Format) : LinkSession :=
  let primary := f.fields.func.isPrimary
  if x.isOnline && !x.inTransmitWait primary then
    if x.txMode = .idle then (x.format f).setMode (.of primary)
    else (x.format f).setPending primary true
  else x

/-- Frames are transmitted one after the other. -/
def transmitAll (x : LinkSession) (frames : List Link.Format) : LinkSession :=
  frames.foldl transmit x

/-- Transmit the buffer that waits, if no other one is being transmitted. -/
def tryPendingTx (x : LinkSession) (primary : Bool) : LinkSession :=
  if x.txMode = .idle ∧ x.pendingTx primary then (x.setPending primary false).setMode (.of primary)
  else x

/-- The transmitter is free again, and a pending frame is transmitted. -/
def release (x : LinkSession) : LinkSession :=
  ((x.setMode .idle).tryPendingTx false).tryPendingTx true

/-- The buffer is free again, and what follows is transmitted. -/
def onTransmitResult (x : LinkSession) (frames : List Link.Format) : LinkSession :=
  if x.txMode = .idle then x else x.release.transmitAll frames

/-- The session goes up, and transmits what it has. -/
def up (x : LinkSession) (frames : List Link.Format) : LinkSession :=
  if x.isOnline then x else ({ x with isOnline := true }).transmitAll frames

theorem transmitAll_append (x : LinkSession) (frames frames' : List Link.Format) :
    x.transmitAll (frames ++ frames') = (x.transmitAll frames).transmitAll frames' :=
  List.foldl_append

end LinkSession

/-! ## The router and its sessions -/

namespace LinkLayerRouter

variable {κ : Type} [DecidableEq κ]

theorem sessions_setSession_self (r : LinkLayerRouter κ) (c : κ) (x : LinkSession) :
    (r.setSession c x).sessions c = x := Function.update_self ..

/-- A frame of a context is a transmission of its session. -/
theorem sessions_transmit_self (r : LinkLayerRouter κ) (c : κ) (f : Link.Format)
    (hc : r.hasContext c = true) :
    (r.transmit c f).sessions c = (r.sessions c).transmit f := by
  unfold transmit LinkSession.transmit
  rw [hc, Bool.true_and]
  dsimp only
  split
  · unfold queueTransmit
    rw [sessions_setSession_self]
    change (if (r.sessions c).txMode = .idle then _ else _ : LinkLayerRouter κ).sessions c = _
    split
    · rw [sessions_beginTransmit, sessions_setSession_self]
    · rw [sessions_setSession_self]
  · rfl

omit [DecidableEq κ] in
theorem records_beginTransmit (r : LinkLayerRouter κ) (c : κ) (primary : Bool) :
    (r.beginTransmit c primary).records = r.records := by
  unfold beginTransmit
  split
  · unfold checkForSend
    split
    · rfl
    · split <;> rfl
  · rfl

theorem hasContext_beginTransmit (r : LinkLayerRouter κ) (c : κ) (primary : Bool) (c' : κ) :
    (r.beginTransmit c primary).hasContext c' = r.hasContext c' := by
  rw [hasContext, records_beginTransmit, hasContext]

theorem hasContext_transmit (r : LinkLayerRouter κ) (c : κ) (f : Link.Format) (c' : κ) :
    (r.transmit c f).hasContext c' = r.hasContext c' := by
  unfold transmit
  split
  · unfold queueTransmit
    split
    · exact hasContext_beginTransmit _ _ _ _
    · rfl
  · rfl

/-- Frames of a context are transmissions of its session. -/
theorem sessions_transmitAll (r : LinkLayerRouter κ) (c : κ) (frames : List Link.Format)
    (hc : r.hasContext c = true) :
    (r.transmitAll c frames).sessions c = (r.sessions c).transmitAll frames := by
  induction frames generalizing r with
  | nil => rfl
  | cons f frames ih =>
    change ((r.transmit c f).transmitAll c frames).sessions c = _
    rw [ih _ ((hasContext_transmit r c f c).trans hc), sessions_transmit_self r c f hc]
    rfl

/-- The pending buffer of a context is that of its session. -/
theorem tryPendingTx_self (r : LinkLayerRouter κ) (c : κ) (primary : Bool)
    (hc : r.hasContext c = true) :
    (r.tryPendingTx c primary).sessions c = (r.sessions c).tryPendingTx primary ∧
      (r.tryPendingTx c primary).hasContext c = true := by
  unfold tryPendingTx LinkSession.tryPendingTx
  split
  · dsimp only
    rw [sessions_setSession_self, sessions_beginTransmit]
    exact ⟨rfl, (hasContext_beginTransmit r c primary c).trans hc⟩
  · exact ⟨rfl, hc⟩

/-- The result of a transmission is handed to the session, which transmits what follows. -/
theorem sessions_onTransmitResult (r : LinkLayerRouter κ) (c : κ) (frames : List Link.Format)
    (hc : r.hasContext c = true) :
    (r.onTransmitResult c frames).sessions c = (r.sessions c).onTransmitResult frames := by
  unfold onTransmitResult LinkSession.onTransmitResult
  split
  · rfl
  · dsimp only
    have hfree : (r.setSession c ((r.sessions c).setMode .idle)).hasContext c = true := hc
    obtain ⟨hsecondary, hc₁⟩ := tryPendingTx_self _ c false hfree
    obtain ⟨hprimary, hc₂⟩ := tryPendingTx_self _ c true hc₁
    rw [sessions_transmitAll _ c frames hc₂, hprimary, hsecondary, sessions_setSession_self]
    rfl

/-- A context that goes up is a session that goes up. -/
theorem sessions_lowerLayerUp (r : LinkLayerRouter κ) (c : κ) (frames : List Link.Format)
    (hc : r.hasContext c = true) :
    (r.lowerLayerUp c frames).sessions c = (r.sessions c).up frames := by
  have hsession : (r.note (.up c)).sessions c = r.sessions c := rfl
  unfold lowerLayerUp LinkSession.up
  dsimp only
  rw [hsession]
  split
  · rfl
  · have hup : ((r.note (.up c)).setSession c
        { r.sessions c with isOnline := true }).hasContext c = true := hc
    rw [sessions_transmitAll _ c frames hup, sessions_setSession_self]

theorem sessions_lowerLayerDown (r : LinkLayerRouter κ) (c : κ) :
    (r.lowerLayerDown c).sessions c = (r.sessions c).down :=
  sessions_setSession_self (r.note (.down c)) c (r.sessions c).down

end LinkLayerRouter
end Asiodnp3

/-! ## The session of a link -/

namespace Link
namespace LinkContext

open Asiodnp3 Library

variable {s s' : LinkContext} {primary : Bool}

/-- What the router's model knows of a link. -/
def session (s : LinkContext) : LinkSession where
  isOnline := s.isOnline
  txMode := s.txMode
  pendingTx primary := (s.pendingTx primary).isSome
  txBuffer primary := ((s.buffers.frame primary).map Format.bytes).getD []

theorem session_note (s : LinkContext) {e : LinkEntry} (he : Silent e) :
    (s.note e).session = s.session := by
  have hbuffers : (s.note e).buffers = s.buffers := (s.buffers_note e).trans (he _).2
  unfold session
  rw [hbuffers]
  rfl

theorem session_initial (config : LinkConfig) (now : Int) :
    (initial config now).session = LinkSession.initial := by
  unfold session LinkSession.initial
  congr 1
  funext primary
  cases primary <;> rfl

theorem awaits_session (s : LinkContext) (primary : Bool) :
    s.session.inTransmitWait primary = s.awaits primary := by
  unfold LinkSession.inTransmitWait awaits session
  cases s.txMode <;> cases primary <;> rfl

/-- The frame is in the buffer of its station. -/
theorem frame_transmit (s : LinkContext) (primary : Bool) (frame : Format) :
    (s.transmit primary frame).buffers.frame =
      Function.update s.buffers.frame primary (some frame) := by
  have hformat : (s.format primary frame).1.buffers.frame =
      Function.update s.buffers.frame primary (some frame) := by
    rw [s.buffers_format primary frame]
  rw [← hformat]
  unfold transmit
  generalize (s.format primary frame).1 = x
  generalize (s.format primary frame).2 = size
  unfold queueTransmit beginTransmit
  split
  · rw [buffers_note]
    rfl
  · rw [buffers_note, buffers, log_setPendingTx]
    rfl

/-- A link transmits a frame as its session does. -/
theorem session_transmit (honline : s.session.isOnline = true)
    (hnot : s.session.inTransmitWait primary = false) {frame : Format}
    (hframe : frame.fields.func.isPrimary = primary) :
    (s.transmit primary frame).session = s.session.transmit frame := by
  have hkeeps := s.keepsStations_transmit primary frame
  have hbuffers : (s.transmit primary frame).session.txBuffer =
      Function.update s.session.txBuffer primary frame.bytes := by
    funext p
    change (((s.transmit primary frame).buffers.frame p).map Format.bytes).getD [] = _
    rw [frame_transmit]
    by_cases hp : p = primary
    · subst hp
      simp
    · simp [Function.update_of_ne hp, session]
  have hready : (s.session.isOnline && !s.session.inTransmitWait primary) = true := by
    rw [honline, hnot]
    rfl
  unfold LinkSession.transmit
  rw [hframe]
  dsimp only
  rw [if_pos hready]
  by_cases hidle : s.txMode = .idle
  · obtain ⟨hmode, hpending⟩ := transmit_free hidle primary frame
    rw [if_pos (show s.session.txMode = .idle from hidle)]
    refine LinkSession.ext hkeeps.isOnline hmode (funext fun p => ?_) (hframe ▸ hbuffers)
    exact congrArg Option.isSome (hpending p)
  · obtain ⟨hmode, hown, hother⟩ := transmit_busy hidle primary frame
    rw [if_neg (show ¬ s.session.txMode = .idle from hidle)]
    refine LinkSession.ext hkeeps.isOnline hmode (funext fun p => ?_) (hframe ▸ hbuffers)
    rcases eq_or_eq_not primary p with rfl | rfl
    · exact hown.trans (Function.update_self _ true s.session.pendingTx).symm
    · have hne : (!primary) ≠ primary := by cases primary <;> simp
      refine (congrArg Option.isSome hother).trans ?_
      exact (Function.update_of_ne hne true s.session.pendingTx).symm

/-- A link transmits its pending frame as its session does. -/
theorem session_tryPendingTx (s : LinkContext) (primary : Bool) :
    (s.tryPendingTx primary).session = s.session.tryPendingTx primary := by
  unfold LinkSession.tryPendingTx
  by_cases hidle : s.txMode = .idle
  · cases hpending : s.pendingTx primary with
    | none =>
      rw [tryPendingTx_none hpending, if_neg]
      rintro ⟨-, hsome⟩
      exact absurd ((congrArg Option.isSome hpending).symm.trans hsome) Bool.noConfusion
    | some size =>
      have hsome : s.session.pendingTx primary = true := congrArg Option.isSome hpending
      rw [tryPendingTx_some hidle hpending, if_pos ⟨hidle, hsome⟩]
      have hframes : ∀ p, (((s.beginTransmit size primary).setPendingTx primary
          none).buffers.frame p) = s.buffers.frame p := by
        intro p
        rw [buffers, log_setPendingTx]
        exact congrFun (congrArg TransmitBuffers.frame (buffers_note s _)) p
      refine LinkSession.ext ?_ rfl (funext fun p => ?_) (funext fun p => ?_)
      · cases primary <;> rfl
      · rcases eq_or_eq_not primary p with rfl | rfl
        · refine Eq.trans ?_ (Function.update_self _ false s.session.pendingTx).symm
          exact congrArg Option.isSome (pendingTx_setPendingTx _ p none)
        · have hne : (!primary) ≠ primary := by cases primary <;> simp
          refine Eq.trans ?_ (Function.update_of_ne hne false s.session.pendingTx).symm
          exact congrArg Option.isSome (pendingTx_not_setPendingTx _ primary none)
      · exact congrArg (fun frame => (frame.map Format.bytes).getD []) (hframes p)
  · rw [tryPendingTx_busy hidle, if_neg fun h => hidle h.1]

/-- The result of a transmission releases the transmitter. -/
theorem session_released (s : LinkContext) (primary success : Bool) :
    (s.released primary success).session = s.session.release := by
  have hfreed : (s.freed primary success).session = s.session.setMode .idle := by
    refine LinkSession.ext rfl rfl rfl (funext fun p => ?_)
    exact congrArg (fun b => ((b.frame p).map Format.bytes).getD []) (buffers_note _ _)
  change (((s.freed primary success).tryPendingTx false).tryPendingTx true).session = _
  rw [session_tryPendingTx, session_tryPendingTx, hfreed]
  rfl

/-! ## The frames of a step -/

/-- The link transmits some frames. -/
def Sends (s s' : LinkContext) : Prop :=
  ∃ frames, s'.session = s.session.transmitAll frames

theorem Sends.of_eq (h : s'.session = s.session) : Sends s s' := ⟨[], h⟩

theorem Sends.trans {s'' : LinkContext} (h : Sends s s') (h' : Sends s' s'') : Sends s s'' := by
  obtain ⟨frames, hframes⟩ := h
  obtain ⟨frames', hframes'⟩ := h'
  exact ⟨frames ++ frames', by rw [hframes', hframes, LinkSession.transmitAll_append]⟩

/-- One frame is transmitted, in a state that is `s` to the router. -/
theorem Sends.transmits (x : LinkContext) (primary : Bool) (frame : Format)
    (hx : x.session = s.session) (honline : s.isOnline = true)
    (hnot : s.awaits primary = false) (hframe : frame.fields.func.isPrimary = primary)
    (hs' : s'.session = (x.transmit primary frame).session) : Sends s s' := by
  have hwait : x.session.inTransmitWait primary = false := by
    rw [hx, awaits_session, hnot]
  have honline' : x.session.isOnline = true := by
    rw [hx]
    exact honline
  exact ⟨[frame], by rw [hs', session_transmit honline' hwait hframe, hx]; rfl⟩

@[simp] theorem session_setPriState (s : LinkContext) (state : PriState) :
    (s.setPriState state).session = s.session := rfl

@[simp] theorem session_setSecState (s : LinkContext) (state : SecState) :
    (s.setSecState state).session = s.session := rfl

@[simp] theorem session_setSegments (s : LinkContext) (segments : Segments) :
    (s.setSegments segments).session = s.session := rfl

@[simp] theorem session_heard (s : LinkContext) : s.heard.session = s.session := rfl

@[simp] theorem session_cancelTimer (s : LinkContext) : s.cancelTimer.session = s.session := rfl

@[simp] theorem session_resetRetry (s : LinkContext) : s.resetRetry.session = s.session := rfl

@[simp] theorem session_retried (s : LinkContext) : s.retried.session = s.session := rfl

@[simp] theorem session_expired (s : LinkContext) : s.expired.session = s.session := rfl

@[simp] theorem session_startResponseTimer (s : LinkContext) :
    s.startResponseTimer.session = s.session := rfl

@[simp] theorem session_toggleReadFCB (s : LinkContext) :
    s.toggleReadFCB.session = s.session := rfl

@[simp] theorem session_resetReadFCB (s : LinkContext) : s.resetReadFCB.session = s.session := rfl

@[simp] theorem session_startKeepAliveTimer (s : LinkContext) :
    s.startKeepAliveTimer.session = s.session := rfl

@[simp] theorem session_post (s : LinkContext) (callback : Posted) :
    (s.post callback).session = s.session :=
  session_note _ fun _ => ⟨trivial, rfl⟩

@[simp] theorem session_postStatusCallback (s : LinkContext) (status : LinkStatus) :
    (s.postStatusCallback status).session = s.session := s.session_post _

@[simp] theorem session_completed (s : LinkContext) (success : Bool) :
    (s.completed success).session = s.session :=
  session_post ({ s with pSegments := none }) _

@[simp] theorem session_resetHeard (s : LinkContext) : s.resetHeard.session = s.session :=
  session_note s.heard (e := .resetAcknowledged) fun _ => ⟨trivial, rfl⟩

@[simp] theorem session_ackHeard (s : LinkContext) : s.ackHeard.session = s.session :=
  session_note s.heard (e := .acknowledged) fun _ => ⟨trivial, rfl⟩

theorem session_requested (s : LinkContext) :
    s.requested.session =
      ({ s with keepAliveTimeout := false }.transmit true (requestFrame s.config)).session := by
  have hsilent : Silent .keepAliveInitiated := fun _ => ⟨trivial, rfl⟩
  unfold requested
  rw [session_setPriState, session_note _ hsilent]

theorem session_wakened (s : LinkContext) :
    s.wakened.session = { s.session with isOnline := true } := by
  have hsilent : Silent .up := fun _ => ⟨trivial, rfl⟩
  unfold wakened
  rw [session_postStatusCallback, session_startKeepAliveTimer, session_note _ hsilent]
  rfl

/-- A link that goes down is a session that goes down. -/
theorem session_shut (s : LinkContext) (honline : s.isOnline = true) :
    s.shut.session = s.session.down := by
  have hframe : ∀ primary, s.shut.buffers.frame primary = s.buffers.frame primary := by
    intro primary
    unfold shut postStatusCallback post
    rw [buffers_note]
    exact congrFun (congrArg TransmitBuffers.frame (buffers_note _ LinkEntry.down)) primary
  unfold LinkSession.down
  rw [if_pos (show s.session.isOnline = true from honline)]
  refine LinkSession.ext rfl rfl (funext fun primary => ?_) (funext fun primary => ?_)
  · cases primary <;> rfl
  · exact congrArg (fun frame => (frame.map Format.bytes).getD []) (hframe primary)

/-- What a link starts is a frame, or nothing that the router sees. -/
theorem Steady.sends_start (h : Steady s) (hs : Start s s') : Sends s s' := by
  have hnot : s.pPriState = .idle → s.awaits true = false := by
    intro hidle
    rw [← h.primary, hidle]
    rfl
  have honline : s.pSegments.isSome = true ∨ s.keepAliveTimeout = true → s.isOnline = true := by
    rintro (hsome | hdue) <;> refine h.online fun hrest => ?_
    · rw [hrest.pSegments] at hsome
      cases hsome
    · rw [hrest.keepAliveTimeout] at hdue
      cases hdue
  cases hs with
  | take segments =>
    refine .of_eq ((session_note (s.setSegments segments) ?_).trans rfl)
    exact fun _ => ⟨trivial, rfl⟩
  | requestStatus hidle hdue =>
    exact .transmits { s with keepAliveTimeout := false } true (requestFrame s.config) rfl
      (honline (.inr hdue)) (hnot hidle) rfl s.session_requested
  | confirmed segments hidle hsegments hconfirms hreset =>
    exact .transmits s.resetRetry true _ rfl
      (honline (.inl (Option.isSome_of_eq_some hsegments))) (hnot hidle) rfl rfl
  | reset segments hidle hsegments hconfirms hreset =>
    exact .transmits s.resetRetry true _ rfl
      (honline (.inl (Option.isSome_of_eq_some hsegments))) (hnot hidle) rfl rfl
  | unconfirmed segments hidle hsegments hconfirms =>
    exact .transmits s true _ rfl
      (honline (.inl (Option.isSome_of_eq_some hsegments))) (hnot hidle) rfl rfl

theorem Steady.sends_starts (h : Steady s) (hs : Starts s s') : Sends s s' := by
  suffices hboth : Steady s' ∧ Sends s s' from hboth.2
  induction hs with
  | refl => exact ⟨h, .of_eq rfl⟩
  | tail _ hstart ih => exact ⟨ih.1.start hstart, ih.2.trans (ih.1.sends_start hstart)⟩

/-! ## The router's moves -/

/-- What the call of the router does to the session before any frame is transmitted. -/
def called (e : Event) (x : LinkSession) : LinkSession :=
  match e with
  | .lowerLayerUp _ => { x with isOnline := true }
  | .lowerLayerDown => x.down
  | .transmitResult _ => if x.txMode = .idle then x else x.release
  | _ => x

/-- A frame is transmitted after a call of the router. -/
theorem called_transmits (x : LinkContext) {y : LinkSession} (primary : Bool) (frame : Format)
    (hx : x.session = y) (honline : x.isOnline = true) (hnot : x.awaits primary = false)
    (hframe : frame.fields.func.isPrimary = primary)
    (hs' : s'.session = (x.transmit primary frame).session) :
    ∃ frames, s'.session = y.transmitAll frames := by
  obtain ⟨frames, hframes⟩ := Sends.transmits x primary frame rfl honline hnot hframe hs'
  exact ⟨frames, hx ▸ hframes⟩

/-- What an event does before anything is started is what the router has called, and then frames. -/
theorem Steady.session_handles {e : Event} (h : Steady s) (hs : Handles s e s') :
    ∃ frames, s'.session = (called e s.session).transmitAll frames := by
  have hreleased : ∀ success, s.txMode ≠ .idle →
      called (.transmitResult success) s.session = s.session.release :=
    fun _ hmode => if_neg hmode
  have honline : ∀ {header}, s.admits header = true → s.isOnline = true := admits_online
  have hready : s.isDue s.rspTimeoutTimer = true → Ready s.expired := h.ready_expired
  have hwait : s.pPriState.isResponseWait = true → s.awaits true = false := by
    intro hwait
    rw [← h.primary, PriState.isTransmitWait_of_isResponseWait hwait]
  have hfree : s.pSecState.isTransmitWait = false → s.awaits false = false := by
    intro hfree
    rw [← h.secondary, hfree]
  cases hs with
  | ignored e hignores =>
    refine ⟨[], ?_⟩
    cases e with
    | lowerLayerUp sends =>
      exact LinkSession.ext (hignores : s.isOnline = true) rfl rfl rfl
    | lowerLayerDown =>
      have hoff : s.session.isOnline = false := hignores
      exact (if_neg (by rw [hoff]; exact Bool.noConfusion)).symm
    | transmitResult success => exact (if_pos (hignores : s.txMode = .idle)).symm
    | _ => rfl
  | up sends hoff => exact ⟨[], s.session_wakened⟩
  | down honline => exact ⟨[], s.session_shut honline⟩
  | elapsed milliseconds => exact ⟨[], rfl⟩
  | ran sends callback rest hcallbacks =>
    have hsilent : Silent (.ran callback) := fun _ => ⟨trivial, rfl⟩
    exact ⟨[], session_note { s with callbacks := rest } hsilent⟩
  | keepAlive hdue =>
    refine ⟨[], ?_⟩
    unfold rearmed
    split <;> rfl
  | awaiting state hmode hstate =>
    refine ⟨[], ?_⟩
    rw [hreleased true (by rw [hmode]; exact nofun), session_setPriState,
      session_startResponseTimer, session_released]
    rfl
  | notSent hmode hstate =>
    refine ⟨[], ?_⟩
    rw [hreleased false (by rw [hmode]; exact nofun), session_completed, session_released]
    rfl
  | notRequested hmode hstate =>
    refine ⟨[], ?_⟩
    rw [hreleased false (by rw [hmode]; exact nofun), session_setPriState, session_released]
    rfl
  | unconfirmedNext success current next rest hmode hstate hsegments =>
    have honline := h.online_of_primary (by rw [hmode]; exact nofun)
    have hready := h.ready_released honline hmode success
    rw [hreleased success (by rw [hmode]; exact nofun)]
    exact called_transmits ((s.released true success).setSegments ⟨next, rest⟩) true
      (unconfirmedFrame s.config next) (s.session_released true success) hready.online
      hready.unqueued rfl rfl
  | unconfirmedLast success current hmode hstate hsegments =>
    refine ⟨[], ?_⟩
    rw [hreleased success (by rw [hmode]; exact nofun), session_completed, session_released]
    rfl
  | answered success hmode =>
    refine ⟨[], ?_⟩
    rw [hreleased success (by rw [hmode]; exact nofun), session_setSecState, session_released]
    rfl
  | heard header userdata sends hadmits hunused => exact ⟨[], rfl⟩
  | ackReset header userdata sends segments hadmits hfunc hstate hsegments =>
    refine Sends.transmits s.resetHeard true (confirmedFrame s.config true segments.current)
      s.session_resetHeard (honline hadmits) (hwait (by rw [hstate]; rfl)) rfl ?_
    exact session_postStatusCallback _ _
  | ackNext header userdata sends current next rest hadmits hfunc hstate hsegments =>
    exact Sends.transmits (s.ackHeard.setSegments ⟨next, rest⟩) true
      (confirmedFrame s.config (!s.nextWriteFCB) next) s.session_ackHeard (honline hadmits)
      (hwait (by rw [hstate]; rfl)) rfl rfl
  | ackLast header userdata sends current hadmits hfunc hstate hsegments =>
    exact Sends.of_eq ((session_completed _ true).trans s.session_ackHeard)
  | refused header userdata sends hadmits hack hfunc hstate =>
    exact Sends.of_eq (session_completed s.heard.cancelTimer false)
  | nackFull header userdata sends hadmits hfunc hstate =>
    refine Sends.of_eq ((session_completed _ false).trans ?_)
    exact session_postStatusCallback s.heard .unreset
  | nackReset header userdata sends hadmits hfunc hstate =>
    exact Sends.transmits ((s.heard.postStatusCallback .unreset).resetRetry.cancelTimer) true
      (resetFrame s.config) (session_postStatusCallback s.heard .unreset) (honline hadmits)
      (hwait (by rw [hstate]; rfl)) rfl rfl
  | reported header userdata sends hadmits hfunc hstate =>
    have hsilent : Silent .keepAliveSuccess := fun _ => ⟨trivial, rfl⟩
    exact Sends.of_eq (session_note s.heard.cancelTimer hsilent)
  | notReported header userdata sends hadmits hfunc hstate => exact ⟨[], rfl⟩
  | tested header userdata sends hadmits hfunc hstate hfcb =>
    exact Sends.transmits s.heard false (ackFrame s.config) rfl (honline hadmits)
      (hfree (by rw [hstate]; rfl)) rfl rfl
  | reset header userdata sends hadmits hfunc hstate =>
    exact Sends.transmits s.heard false (ackFrame s.config) rfl (honline hadmits)
      (hfree hstate) rfl rfl
  | requested header userdata sends hadmits hfunc hstate =>
    exact Sends.transmits s.heard false (linkStatusFrame s.config) rfl (honline hadmits)
      (hfree hstate) rfl rfl
  | accepted header userdata sends hadmits hfunc hstate hfcb =>
    have hsilent : Silent (.received userdata) := fun _ => ⟨trivial, rfl⟩
    refine Sends.transmits s.heard false (ackFrame s.config) rfl (honline hadmits)
      (hfree (by rw [hstate]; rfl)) rfl ?_
    rw [session_setSecState, session_note _ hsilent, session_toggleReadFCB]
  | repeated header userdata sends hadmits hfunc hstate hfcb =>
    exact Sends.transmits s.heard false (ackFrame s.config) rfl (honline hadmits)
      (hfree (by rw [hstate]; rfl)) rfl rfl
  | unconfirmed header userdata sends hadmits hfunc =>
    have hsilent : Silent (.received userdata) := fun _ => ⟨trivial, rfl⟩
    exact Sends.of_eq (session_note s.heard hsilent)
  | resetRetried hdue hretry hstate =>
    exact Sends.transmits s.retried true (resetFrame s.config) rfl (hready hdue).online
      (hwait (by rw [hstate]; rfl)) rfl rfl
  | dataRetried segments hdue hretry hstate hsegments =>
    exact Sends.transmits s.retried true
      (confirmedFrame s.config s.nextWriteFCB segments.current) rfl (hready hdue).online
      (hwait (by rw [hstate]; rfl)) rfl rfl
  | resetExpired hdue hretry hstate => exact Sends.of_eq (session_completed s.expired false)
  | dataExpired hdue hretry hstate =>
    refine Sends.of_eq ((session_completed _ false).trans ?_)
    exact session_postStatusCallback s.expired .unreset
  | requestExpired hdue hstate =>
    have hsilent : Silent .keepAliveFailure := fun _ => ⟨trivial, rfl⟩
    exact Sends.of_eq (session_note s.expired hsilent)

/-- What the session of a link does in a step, with the frames that the link transmits. -/
def Event.session (e : Event) (x : LinkSession) (frames : List Format) : LinkSession :=
  match e with
  | .lowerLayerUp _ => x.up frames
  | .lowerLayerDown => x.down
  | .transmitResult _ => x.onTransmitResult frames
  | _ => x.transmitAll frames

/-- A session that is offline transmits nothing. -/
theorem transmitAll_offline {x : LinkSession} (hoff : x.isOnline = false) (frames : List Format) :
    x.transmitAll frames = x := by
  induction frames with
  | nil => rfl
  | cons f frames ih =>
    have hnothing : x.transmit f = x := by
      unfold LinkSession.transmit
      rw [hoff]
      rfl
    change (x.transmit f).transmitAll frames = x
    rw [hnothing, ih]

/-- Every step of a steady link is one that the router's model has for its session. -/
theorem Steady.session_step (h : Steady s) (e : Event) :
    ∃ frames, (s.step e).session = Event.session e s.session frames := by
  have hframes : ∃ frames, (s.step e).session = (called e s.session).transmitAll frames := by
    obtain ⟨s₁, hhandles, hstarts⟩ := handled_step h e
    obtain ⟨frames, hcalled⟩ := h.session_handles hhandles
    obtain ⟨frames', hstarted⟩ := (h.handles hhandles).sends_starts hstarts
    exact ⟨frames ++ frames', by rw [hstarted, hcalled, LinkSession.transmitAll_append]⟩
  obtain ⟨frames, hstep⟩ := hframes
  cases e with
  | lowerLayerUp sends =>
    cases honline : s.isOnline with
    | true =>
      refine ⟨[], ?_⟩
      have hsame : s.step (.lowerLayerUp sends) = s := if_pos honline
      rw [hsame]
      exact (if_pos (show s.session.isOnline = true from honline)).symm
    | false =>
      refine ⟨frames, hstep.trans ?_⟩
      have hoff : ¬ s.session.isOnline = true := by
        change ¬ s.isOnline = true
        rw [honline]
        exact nofun
      exact (if_neg hoff).symm
  | lowerLayerDown =>
    have hoff : s.session.down.isOnline = false := by
      unfold LinkSession.down
      split
      · rfl
      · exact eq_false_of_ne_true ‹_›
    exact ⟨[], hstep.trans (transmitAll_offline hoff frames)⟩
  | transmitResult success =>
    by_cases hidle : s.session.txMode = .idle
    · have hmode : s.txMode = .idle := hidle
      have hsame : s.step (.transmitResult success) = s := by
        change s.onTransmitResult success = s
        unfold onTransmitResult onTransmitResultContext
        rw [hmode]
      refine ⟨[], ?_⟩
      rw [hsame]
      exact (if_pos hidle).symm
    · refine ⟨frames, hstep.trans ?_⟩
      change (if s.session.txMode = .idle then s.session else s.session.release).transmitAll
        frames =
      if s.session.txMode = .idle then s.session else s.session.release.transmitAll frames
      rw [if_neg hidle, if_neg hidle]
  | _ => exact ⟨frames, hstep⟩

/-- The router calls one of its contexts, or the context does something by itself. -/
def Event.route {κ : Type} [DecidableEq κ] (e : Event) (r : LinkLayerRouter κ) (c : κ)
    (frames : List Format) : LinkLayerRouter κ :=
  match e with
  | .lowerLayerUp _ => r.lowerLayerUp c frames
  | .lowerLayerDown => r.lowerLayerDown c
  | .transmitResult _ => r.onTransmitResult c frames
  | _ => r.transmitAll c frames

/-- The call of the router does to the session of its context what the event does. -/
theorem sessions_route {κ : Type} [DecidableEq κ] (e : Event) (r : LinkLayerRouter κ) {c : κ}
    (hc : r.hasContext c = true) (frames : List Format) :
    (Event.route e r c frames).sessions c = Event.session e (r.sessions c) frames := by
  cases e with
  | lowerLayerUp sends => exact LinkLayerRouter.sessions_lowerLayerUp r c frames hc
  | lowerLayerDown => exact LinkLayerRouter.sessions_lowerLayerDown r c
  | transmitResult success => exact LinkLayerRouter.sessions_onTransmitResult r c frames hc
  | _ => exact LinkLayerRouter.sessions_transmitAll r c frames hc

/-- The session of a link begins as the router's model has it, and in every run whatever the link
does in a step is what the router's model does with its session when the link transmits some
frames. -/
theorem always_follows_session (config : LinkConfig) (now : Int) (events : List Event) :
    (initial config now).session = LinkSession.initial ∧
      Always step (fun s => ∀ e, ∃ frames, ∀ (κ : Type) [DecidableEq κ] (r : LinkLayerRouter κ) c,
        r.hasContext c = true → r.sessions c = s.session →
          (Event.route e r c frames).sessions c = (s.step e).session)
        (initial config now) events := by
  refine ⟨session_initial config now, ?_⟩
  have hsteady : Always step Steady (initial config now) events :=
    always_keeps (fun _ e h => h.step e) events (steady_initial config now)
  refine hsteady.imp fun s h e => ?_
  obtain ⟨frames, hframes⟩ := h.session_step e
  refine ⟨frames, fun κ _ r c hc hsession => ?_⟩
  rw [sessions_route e r hc, hsession, hframes]

end LinkContext
end Link
end Dnp3
