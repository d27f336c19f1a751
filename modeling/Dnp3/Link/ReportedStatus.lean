import Dnp3.Link.SentMessages

/-!
# The status a link reports

The listener is told the status of the link when the other end was reset, when the link comes up or
goes down, and when confirmed user data is refused or its last try has timed out.  In these two
cases the link goes on taking the other end for reset: that is exactly when the status that was
reported last is not the one the link has.
-/

namespace Dnp3
namespace Link

open Library Relation

/-- The books are the status that was reported last. -/
def statusObserver : Observer (Option LinkStatus) LinkEntry where
  allows _ _ := True
  next b
    | .posted (.onStateChange status) => some status
    | _ => b

namespace LinkContext

variable {s s' : LinkContext}

/-- The status that the listener was told last. -/
def lastStatus (s : LinkContext) : Option LinkStatus := statusObserver.after none s.log

/-- The status that was reported last is the one the link has. -/
def Reported (s : LinkContext) : Prop := s.lastStatus = some .reset ↔ s.isRemoteReset = true

/-- Confirmed user data is refused, or has timed out for the last time. -/
def Disowns (s : LinkContext) : Event → Prop
  | .frame header _ _ =>
    s.admits header = true ∧ header.func = .secNack ∧ s.pPriState = .confDataWait
  | .responseTimeout =>
    s.isDue s.rspTimeoutTimer = true ∧ s.numRetryRemaining = 0 ∧ s.pPriState = .confDataWait
  | _ => False

/-! ## The log -/

@[simp] theorem lastStatus_note (s : LinkContext) (e : LinkEntry) :
    (s.note e).lastStatus = statusObserver.next s.lastStatus e :=
  statusObserver.after_concat none s.log e

@[simp] theorem lastStatus_post (s : LinkContext) (callback : Posted) :
    (s.post callback).lastStatus = statusObserver.next s.lastStatus (.posted callback) :=
  statusObserver.after_concat none s.log _

theorem reads_lastStatus (s : LinkContext) : Reads statusObserver none s s.lastStatus := by
  refine ⟨?_, rfl⟩
  generalize (none : Option LinkStatus) = b
  induction s.log generalizing b with
  | nil => exact trivial
  | cons e log ih => exact ⟨trivial, ih _⟩

theorem notWatched_statusObserver : NotWatched statusObserver where
  pending := fun _ _ => ⟨trivial, rfl⟩
  begun := fun _ _ _ => ⟨trivial, rfl⟩

@[simp] theorem lastStatus_transmit (s : LinkContext) (primary : Bool) (frame : Format) :
    (s.transmit primary frame).lastStatus = s.lastStatus :=
  (s.reads_lastStatus.transmit notWatched_statusObserver trivial).2

@[simp] theorem lastStatus_released (s : LinkContext) (primary success : Bool) :
    (s.released primary success).lastStatus = s.lastStatus :=
  (s.reads_lastStatus.released notWatched_statusObserver trivial).2

@[simp] theorem isRemoteReset_transmit (s : LinkContext) (primary : Bool) (frame : Format) :
    (s.transmit primary frame).isRemoteReset = s.isRemoteReset :=
  (s.keepsStations_transmit primary frame).isRemoteReset

@[simp] theorem isRemoteReset_released (s : LinkContext) (primary success : Bool) :
    (s.released primary success).isRemoteReset = s.isRemoteReset :=
  (s.keepsStations_released primary success).isRemoteReset

/-- Neither the status that was reported nor the one the link has changes. -/
structure SameStatus (s s' : LinkContext) : Prop where
  lastStatus : s'.lastStatus = s.lastStatus
  isRemoteReset : s'.isRemoteReset = s.isRemoteReset

theorem SameStatus.reported_iff (h : SameStatus s s') : Reported s' ↔ Reported s := by
  rw [Reported, h.lastStatus, h.isRemoteReset, Reported]

theorem SameStatus.trans {s'' : LinkContext} (h : SameStatus s s') (h' : SameStatus s' s'') :
    SameStatus s s'' :=
  ⟨h'.lastStatus.trans h.lastStatus, h'.isRemoteReset.trans h.isRemoteReset⟩

theorem sameStatus_note (s : LinkContext) {e : LinkEntry}
    (he : ∀ b, statusObserver.next b e = b) : SameStatus s (s.note e) :=
  ⟨(lastStatus_note s e).trans (he _), rfl⟩

theorem sameStatus_transmit (s : LinkContext) (primary : Bool) (frame : Format) :
    SameStatus s (s.transmit primary frame) :=
  ⟨lastStatus_transmit s primary frame, isRemoteReset_transmit s primary frame⟩

theorem sameStatus_released (s : LinkContext) (primary success : Bool) :
    SameStatus s (s.released primary success) :=
  ⟨lastStatus_released s primary success, isRemoteReset_released s primary success⟩

theorem sameStatus_setPriState (s : LinkContext) (state : PriState) :
    SameStatus s (s.setPriState state) := ⟨rfl, rfl⟩

theorem sameStatus_setSecState (s : LinkContext) (state : SecState) :
    SameStatus s (s.setSecState state) := ⟨rfl, rfl⟩

theorem sameStatus_completed (s : LinkContext) (success : Bool) :
    SameStatus s (s.completed success) := ⟨lastStatus_post _ _, rfl⟩

theorem sameStatus_heard (s : LinkContext) : SameStatus s s.heard := ⟨rfl, rfl⟩

theorem sameStatus_ackHeard (s : LinkContext) : SameStatus s s.ackHeard :=
  ⟨lastStatus_note s.heard .acknowledged, s.isRemoteReset_ackHeard⟩

/-- The primary station transmits a frame and waits for it. -/
theorem SameStatus.transmits (h : SameStatus s s') (frame : Format) (state : PriState) :
    SameStatus s ((s'.transmit true frame).setPriState state) :=
  (h.trans (s'.sameStatus_transmit true frame)).trans (sameStatus_setPriState _ state)

theorem sameStatus_start (hs : Start s s') : SameStatus s s' := by
  cases hs with
  | take segments =>
    have hset : SameStatus s (s.setSegments segments) := ⟨rfl, rfl⟩
    exact hset.trans (sameStatus_note _ fun _ => rfl)
  | requestStatus =>
    have hkeepAlive : SameStatus s { s with keepAliveTimeout := false } := ⟨rfl, rfl⟩
    have htransmit := hkeepAlive.trans (sameStatus_transmit _ true (requestFrame s.config))
    exact (htransmit.trans (sameStatus_note _ fun _ => rfl)).trans (sameStatus_setPriState _ _)
  | confirmed | reset =>
    have hretry : SameStatus s s.resetRetry := ⟨rfl, rfl⟩
    exact hretry.transmits _ _
  | unconfirmed =>
    have hself : SameStatus s s := ⟨rfl, rfl⟩
    exact hself.transmits _ _

theorem sameStatus_starts (hs : Starts s s') : SameStatus s s' := by
  induction hs with
  | refl => exact ⟨rfl, rfl⟩
  | tail _ hstart ih => exact ih.trans (sameStatus_start hstart)

/-- What an event does to the status that was reported and to the one the link has. -/
theorem status_handles {e : Event} (hst : Steady s) (hs : Handles s e s') :
    (¬ Disowns s e ∧ (SameStatus s s' ∨ Reported s')) ∨
      (Disowns s e ∧ s'.lastStatus = some .unreset ∧ s'.isRemoteReset = s.isRemoteReset) := by
  have hother : ∀ {header : LinkHeaderFields} {userdata : List UInt8} {sends : List Segments},
      header.func ≠ .secNack → ¬ Disowns s (.frame header userdata sends) :=
    fun hfunc hdisowns => hfunc hdisowns.2.1
  have hstate : ∀ {header : LinkHeaderFields} {userdata : List UInt8} {sends : List Segments},
      s.pPriState ≠ .confDataWait → ¬ Disowns s (.frame header userdata sends) :=
    fun hstate hdisowns => hstate hdisowns.2.2
  cases hs with
  | ignored e hignores =>
    refine .inl ⟨?_, .inl ⟨rfl, rfl⟩⟩
    cases e with
    | frame =>
      rintro ⟨hadmits, _⟩
      rw [show s.admits _ = false from hignores] at hadmits
      cases hadmits
    | responseTimeout =>
      rintro ⟨hdue, _⟩
      rw [show s.isDue s.rspTimeoutTimer = false from hignores] at hdue
      cases hdue
    | _ => exact id
  | up sends hoff =>
    have hreset := (hst.offline hoff).isRemoteReset
    refine .inl ⟨id, .inr ?_⟩
    unfold Reported wakened postStatusCallback
    rw [lastStatus_post]
    exact ⟨fun h => (by cases h), fun h => absurd (hreset.symm.trans h) Bool.false_ne_true⟩
  | down honline =>
    refine .inl ⟨id, .inr ?_⟩
    unfold Reported shut postStatusCallback
    rw [lastStatus_post]
    exact ⟨fun h => (by cases h), fun h => (by cases h)⟩
  | elapsed => exact .inl ⟨id, .inl ⟨rfl, rfl⟩⟩
  | ran sends callback rest => exact .inl ⟨id, .inl ⟨lastStatus_note _ _, rfl⟩⟩
  | keepAlive =>
    refine .inl ⟨id, .inl ?_⟩
    unfold rearmed
    split <;> exact ⟨rfl, rfl⟩
  | awaiting state =>
    have htimer : SameStatus (s.released true true) (s.released true true).startResponseTimer :=
      ⟨rfl, rfl⟩
    exact .inl ⟨id, .inl (((s.sameStatus_released true true).trans htimer).trans
      (sameStatus_setPriState _ state))⟩
  | notSent =>
    exact .inl ⟨id, .inl ((s.sameStatus_released true false).trans (sameStatus_completed _ _))⟩
  | notRequested =>
    exact .inl ⟨id, .inl ((s.sameStatus_released true false).trans (sameStatus_setPriState _ _))⟩
  | unconfirmedNext success current next rest =>
    have hset : SameStatus (s.released true success)
        ((s.released true success).setSegments ⟨next, rest⟩) := ⟨rfl, rfl⟩
    exact .inl ⟨id, .inl (((s.sameStatus_released true success).trans hset).transmits _ _)⟩
  | unconfirmedLast success =>
    exact .inl ⟨id, .inl ((s.sameStatus_released true success).trans (sameStatus_completed _ _))⟩
  | answered success =>
    exact .inl ⟨id, .inl ((s.sameStatus_released false success).trans
      (sameStatus_setSecState _ _))⟩
  | heard header userdata sends hadmits hunused =>
    refine .inl ⟨?_, .inl ⟨rfl, rfl⟩⟩
    rintro ⟨_, hfunc, hwait⟩
    rw [Uses, hfunc, hwait] at hunused
    exact hunused rfl
  | ackReset header userdata sends segments hadmits hfunc =>
    refine .inl ⟨hother (by rw [hfunc]; decide), .inr ?_⟩
    have hlast := lastStatus_post
      (s.resetHeard.transmit true (confirmedFrame s.config true segments.current))
      (.onStateChange .reset)
    exact ⟨fun _ => isRemoteReset_transmit s.resetHeard _ _, fun _ => hlast⟩
  | ackNext header userdata sends current next rest hadmits hfunc =>
    have hset : SameStatus s.ackHeard (s.ackHeard.setSegments ⟨next, rest⟩) := ⟨rfl, rfl⟩
    exact .inl ⟨hother (by rw [hfunc]; decide),
      .inl ((s.sameStatus_ackHeard.trans hset).transmits _ _)⟩
  | ackLast header userdata sends current hadmits hfunc =>
    exact .inl ⟨hother (by rw [hfunc]; decide),
      .inl (s.sameStatus_ackHeard.trans (sameStatus_completed _ _))⟩
  | refused header userdata sends hadmits hack hfunc hrefused =>
    have hcancel : SameStatus s s.heard.cancelTimer := ⟨rfl, rfl⟩
    refine .inl ⟨?_, .inl (hcancel.trans (sameStatus_completed _ _))⟩
    rcases hrefused with hreset | ⟨_, hnack⟩
    · exact hstate (by rw [hreset]; decide)
    · exact hother hnack
  | nackFull header userdata sends hadmits hfunc hwait =>
    have hcompleted := sameStatus_completed (s.heard.postStatusCallback .unreset).cancelTimer false
    exact .inr ⟨⟨hadmits, hfunc, hwait⟩,
      hcompleted.lastStatus.trans (lastStatus_post s.heard (.onStateChange .unreset)),
      hcompleted.isRemoteReset⟩
  | nackReset header userdata sends hadmits hfunc hwait =>
    have hretry : SameStatus (s.heard.postStatusCallback .unreset)
        (s.heard.postStatusCallback .unreset).resetRetry.cancelTimer := ⟨rfl, rfl⟩
    have htransmit := hretry.transmits (resetFrame s.config) .linkResetTransmitWait
    exact .inr ⟨⟨hadmits, hfunc, hwait⟩,
      htransmit.lastStatus.trans (lastStatus_post s.heard (.onStateChange .unreset)),
      htransmit.isRemoteReset⟩
  | reported header userdata sends hadmits hfunc =>
    have hcancel : SameStatus s s.heard.cancelTimer := ⟨rfl, rfl⟩
    exact .inl ⟨hother (by rw [hfunc]; decide),
      .inl ((hcancel.trans (sameStatus_note _ fun _ => rfl)).trans (sameStatus_setPriState _ _))⟩
  | notReported header userdata sends hadmits hfunc hwait =>
    exact .inl ⟨hstate (by rw [hwait]; decide), .inl ⟨rfl, rfl⟩⟩
  | tested header userdata sends hadmits hfunc =>
    have hanswer := s.sameStatus_heard.trans
      (s.heard.sameStatus_transmit false (ackFrame s.config))
    generalize s.heard.transmit false (ackFrame s.config) = x at hanswer ⊢
    exact .inl ⟨hother (by rw [hfunc]; decide), .inl (hanswer.trans ⟨rfl, rfl⟩)⟩
  | reset header userdata sends hadmits hfunc =>
    have hanswer := s.sameStatus_heard.trans
      (s.heard.sameStatus_transmit false (ackFrame s.config))
    generalize s.heard.transmit false (ackFrame s.config) = x at hanswer ⊢
    exact .inl ⟨hother (by rw [hfunc]; decide), .inl (hanswer.trans ⟨rfl, rfl⟩)⟩
  | requested header userdata sends hadmits hfunc =>
    have hanswer := s.sameStatus_heard.trans
      (s.heard.sameStatus_transmit false (linkStatusFrame s.config))
    exact .inl ⟨hother (by rw [hfunc]; decide),
      .inl (hanswer.trans (sameStatus_setSecState _ _))⟩
  | accepted header userdata sends hadmits hfunc =>
    have hanswer := s.sameStatus_heard.trans
      (s.heard.sameStatus_transmit false (ackFrame s.config))
    generalize s.heard.transmit false (ackFrame s.config) = x at hanswer ⊢
    have htoggled : SameStatus s x.toggleReadFCB := hanswer.trans ⟨rfl, rfl⟩
    exact .inl ⟨hother (by rw [hfunc]; decide),
      .inl ((htoggled.trans (sameStatus_note _ fun _ => rfl)).trans (sameStatus_setSecState _ _))⟩
  | repeated header userdata sends hadmits hfunc =>
    have hanswer := s.sameStatus_heard.trans
      (s.heard.sameStatus_transmit false (ackFrame s.config))
    exact .inl ⟨hother (by rw [hfunc]; decide),
      .inl (hanswer.trans (sameStatus_setSecState _ _))⟩
  | unconfirmed header userdata sends hadmits hfunc =>
    exact .inl ⟨hother (by rw [hfunc]; decide),
      .inl (s.sameStatus_heard.trans (sameStatus_note _ fun _ => rfl))⟩
  | resetRetried hdue hretry hwait =>
    have hretried : SameStatus s s.retried := ⟨rfl, rfl⟩
    refine .inl ⟨?_, .inl (hretried.transmits _ _)⟩
    rintro ⟨_, _, hdata⟩
    cases hwait.symm.trans hdata
  | dataRetried segments hdue hretry =>
    have hretried : SameStatus s s.retried := ⟨rfl, rfl⟩
    refine .inl ⟨?_, .inl (hretried.transmits _ _)⟩
    rintro ⟨_, hnone, _⟩
    rw [hnone] at hretry
    exact absurd hretry (UInt32.lt_irrefl 0)
  | resetExpired hdue hretry hwait =>
    have hexpired : SameStatus s s.expired := ⟨rfl, rfl⟩
    refine .inl ⟨?_, .inl (hexpired.trans (sameStatus_completed _ _))⟩
    rintro ⟨_, _, hdata⟩
    cases hwait.symm.trans hdata
  | dataExpired hdue hretry hwait =>
    have hcompleted := sameStatus_completed (s.expired.postStatusCallback .unreset) false
    exact .inr ⟨⟨hdue, hretry, hwait⟩,
      hcompleted.lastStatus.trans (lastStatus_post s.expired (.onStateChange .unreset)),
      hcompleted.isRemoteReset⟩
  | requestExpired hdue hwait =>
    have hexpired : SameStatus s s.expired := ⟨rfl, rfl⟩
    refine .inl ⟨?_, .inl ((hexpired.trans (sameStatus_note _ fun _ => rfl)).trans
      (sameStatus_setPriState _ _))⟩
    rintro ⟨_, _, hdata⟩
    cases hwait.symm.trans hdata

/-- A link whose status was reported stays so exactly if it does not disown the other end. -/
theorem reported_step_iff {e : Event} (h : Sending s) (hreported : Reported s) :
    Reported (s.step e) ↔ ¬ Disowns s e := by
  obtain ⟨s₁, hhandles, hstarts⟩ := handled_step h.steady e
  rw [(sameStatus_starts hstarts).reported_iff]
  rcases status_handles h.steady hhandles with
    ⟨hnot, hsame | hreported'⟩ | ⟨hdisowns, hlast, hreset⟩
  · exact iff_of_true (hsame.reported_iff.mpr hreported) hnot
  · exact iff_of_true hreported' hnot
  · refine iff_of_false (fun hreported' => ?_) (not_not_intro hdisowns)
    have hstate : s.pPriState = .confDataWait := by
      cases e with
      | frame => exact hdisowns.2.2
      | responseTimeout => exact hdisowns.2.2
      | _ => exact hdisowns.elim
    have hremote : s₁.isRemoteReset = true := hreset.trans (h.first (by rw [hstate]; rfl))
    rw [Reported, hlast] at hreported'
    exact absurd (hreported'.mpr hremote) nofun

/-- The link takes the other end for reset when it has said so. -/
theorem reset_step {e : Event} (h : Sending s)
    (hreset : s.lastStatus = some .reset → s.isRemoteReset = true) :
    (s.step e).lastStatus = some .reset → (s.step e).isRemoteReset = true := by
  obtain ⟨s₁, hhandles, hstarts⟩ := handled_step h.steady e
  have hsame := sameStatus_starts hstarts
  rw [hsame.lastStatus, hsame.isRemoteReset]
  rcases status_handles h.steady hhandles with ⟨_, hsame | hreported⟩ | ⟨_, hlast, _⟩
  · rw [hsame.lastStatus, hsame.isRemoteReset]
    exact hreset
  · exact hreported.mp
  · rw [hlast]
    exact nofun

/-- In every state the other end is taken for reset if that was reported last; and a run reports the
status the link has in every state if and only if confirmed user data is neither refused in it nor
times out for the last time. -/
theorem always_reported_iff (config : LinkConfig) (now : Int) (events : List Event) :
    Always step (fun s => s.lastStatus = some .reset → s.isRemoteReset = true)
        (initial config now) events ∧
      (Always step Reported (initial config now) events ↔
        Throughout step (fun s e => ¬ Disowns s e) (initial config now) events) := by
  refine ⟨?_, fun halways => ?_, fun hthroughout => ?_⟩
  · have hboth : Always step
        (fun s => Sending s ∧ (s.lastStatus = some .reset → s.isRemoteReset = true))
        (initial config now) events := by
      refine always_keeps ?_ events ⟨sending_initial config now, nofun⟩
      rintro s e ⟨hsending, hreset⟩
      exact ⟨hsending.step e, reset_step hsending hreset⟩
    exact hboth.imp fun s h => h.2
  · have hsending : Always step Sending (initial config now) events :=
      always_keeps (fun s e h => h.step e) events (sending_initial config now)
    refine (hsending.and halways).throughout ?_
    rintro s e ⟨hsending, hreported⟩ ⟨_, hreported'⟩
    exact (reported_step_iff hsending hreported).mp hreported'
  · have hboth : Always step (fun s => Sending s ∧ Reported s) (initial config now) events := by
      refine always_invariant ?_ ⟨sending_initial config now, nofun, nofun⟩ hthroughout
      rintro s e ⟨hsending, hreported⟩ hnot
      exact ⟨hsending.step e, (reported_step_iff hsending hreported).mpr hnot⟩
    exact hboth.imp fun s h => h.2

end LinkContext
end Link
end Dnp3
