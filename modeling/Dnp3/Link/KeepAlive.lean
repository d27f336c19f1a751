import Dnp3.Link.LinkHandlers

/-!
# The keep-alive of a link

The keep-alive timer is started again for its whole duration whenever it expires, also when a frame
was heard while it ran.  So the status of a silent link is not requested before the second
expiration behind the last frame at the latest, and at the latest when twice the duration has
passed.

`Watched` is the invariant: the timer of a link that is online expires within the keep-alive time,
and at most twice that time after the last frame.  Only a few events touch the clock, the timer or
the time of the last frame (`SameClock`, `Ticks`), so the proof about a step is about those.
`silence_noticed` follows: from any reachable state in which the timer is on time, a link that hears
nothing for long enough requests the status of the link.
-/

namespace Dnp3
namespace Link

open Library Relation

namespace LinkContext

variable {s s' : LinkContext}

/-- Time does not pass the expiration of the keep-alive timer. -/
def OnTime (s : LinkContext) : Event → Prop
  | .elapse milliseconds =>
    (s.keepAliveTimer.all fun expiration => s.now + milliseconds ≤ expiration) = true
  | _ => True

instance (s : LinkContext) (e : Event) : Decidable (s.OnTime e) := by
  cases e <;> unfold OnTime <;> infer_instance

/-- A valid frame is heard, or the link goes offline. -/
def Disturbs (s : LinkContext) : Event → Prop
  | .frame header _ _ => s.admits header = true
  | .lowerLayerDown => True
  | _ => False

instance (s : LinkContext) (e : Event) : Decidable (s.Disturbs e) := by
  cases e <;> unfold Disturbs <;> infer_instance

/-- The keep-alive timer expires on a link that has been silent. -/
def Notices (s : LinkContext) (e : Event) : Prop :=
  e = .keepAliveTimeout ∧ s.isDue s.keepAliveTimer = true ∧
    s.config.keepAliveTimeout ≤ s.now - s.lastMessageTimestamp

/-- The status of the link is requested, at once if the primary station is idle. -/
def Requests (s s' : LinkContext) : Prop :=
  (s.pPriState = .idle ∧ LinkEntry.keepAliveInitiated ∈ s'.log.drop s.log.length) ∨
    (s.pPriState ≠ .idle ∧ s'.keepAliveTimeout = true)

/-! ## What the timer depends on -/

/-- States with the same clock, keep-alive timer and last frame. -/
structure SameClock (s s' : LinkContext) : Prop where
  config : s'.config = s.config
  now : s'.now = s.now
  isOnline : s'.isOnline = s.isOnline
  keepAliveTimer : s'.keepAliveTimer = s.keepAliveTimer
  lastMessageTimestamp : s'.lastMessageTimestamp = s.lastMessageTimestamp

theorem SameClock.trans {s'' : LinkContext} (h : SameClock s s') (h' : SameClock s' s'') :
    SameClock s s'' :=
  ⟨h'.config.trans h.config, h'.now.trans h.now, h'.isOnline.trans h.isOnline,
    h'.keepAliveTimer.trans h.keepAliveTimer,
    h'.lastMessageTimestamp.trans h.lastMessageTimestamp⟩

theorem KeepsStations.sameClock (h : KeepsStations s s') : SameClock s s' :=
  ⟨h.config, h.now, h.isOnline, h.keepAliveTimer, h.lastMessageTimestamp⟩

theorem sameClock_transmit (s : LinkContext) (primary : Bool) (frame : Format) :
    SameClock s (s.transmit primary frame) := (s.keepsStations_transmit primary frame).sameClock

theorem sameClock_released (s : LinkContext) (primary success : Bool) :
    SameClock s (s.released primary success) :=
  (s.keepsStations_released primary success).sameClock

theorem sameClock_note (s : LinkContext) (e : LinkEntry) : SameClock s (s.note e) :=
  ⟨rfl, rfl, rfl, rfl, rfl⟩

theorem sameClock_setPriState (s : LinkContext) (state : PriState) :
    SameClock s (s.setPriState state) := ⟨rfl, rfl, rfl, rfl, rfl⟩

theorem sameClock_setSecState (s : LinkContext) (state : SecState) :
    SameClock s (s.setSecState state) := ⟨rfl, rfl, rfl, rfl, rfl⟩

theorem sameClock_post (s : LinkContext) (callback : Posted) : SameClock s (s.post callback) :=
  ⟨rfl, rfl, rfl, rfl, rfl⟩

theorem sameClock_completed (s : LinkContext) (success : Bool) :
    SameClock s (s.completed success) := ⟨rfl, rfl, rfl, rfl, rfl⟩

theorem SameClock.transmits (h : SameClock s s') (frame : Format) (state : PriState) :
    SameClock s ((s'.transmit true frame).setPriState state) :=
  (h.trans (s'.sameClock_transmit true frame)).trans (sameClock_setPriState _ state)

theorem sameClock_start (hs : Start s s') : SameClock s s' := by
  have hself : SameClock s s := ⟨rfl, rfl, rfl, rfl, rfl⟩
  cases hs with
  | take segments =>
    have hset : SameClock s (s.setSegments segments) := ⟨rfl, rfl, rfl, rfl, rfl⟩
    exact hset.trans (sameClock_note _ _)
  | requestStatus =>
    have hkeepAlive : SameClock s { s with keepAliveTimeout := false } := ⟨rfl, rfl, rfl, rfl, rfl⟩
    have htransmit := hkeepAlive.trans (sameClock_transmit _ true (requestFrame s.config))
    exact (htransmit.trans (sameClock_note _ _)).trans (sameClock_setPriState _ _)
  | confirmed | reset =>
    have hretry : SameClock s s.resetRetry := ⟨rfl, rfl, rfl, rfl, rfl⟩
    exact hretry.transmits _ _
  | unconfirmed => exact hself.transmits _ _

theorem sameClock_starts (hs : Starts s s') : SameClock s s' := by
  induction hs with
  | refl => exact ⟨rfl, rfl, rfl, rfl, rfl⟩
  | tail _ hstart ih => exact ih.trans (sameClock_start hstart)

/-- What an event does to the clock. -/
inductive Ticks (s : LinkContext) : Event → LinkContext → Prop where
  | same (e : Event) (s' : LinkContext) (h : SameClock s s') : Ticks s e s'
  | heard (header : LinkHeaderFields) (userdata : List UInt8) (sends : List Segments)
      (s' : LinkContext) (hadmits : s.admits header = true) (h : SameClock s.heard s') :
      Ticks s (.frame header userdata sends) s'
  | up (sends : List Segments) (s' : LinkContext) (hoff : s.isOnline = false)
      (h : SameClock s.wakened s') : Ticks s (.lowerLayerUp sends) s'
  | down (s' : LinkContext) (h : SameClock s.shut s') : Ticks s .lowerLayerDown s'
  | elapsed (milliseconds : Nat) (s' : LinkContext)
      (h : SameClock { s with now := s.now + milliseconds } s') : Ticks s (.elapse milliseconds) s'
  | keepAlive (s' : LinkContext) (hdue : s.isDue s.keepAliveTimer = true)
      (h : SameClock s.rearmed s') : Ticks s .keepAliveTimeout s'

/-- What a frame does leaves the clock as it is when the frame was heard. -/
theorem sameClock_frame {header : LinkHeaderFields} {userdata : List UInt8}
    {sends : List Segments} (hadmits : s.admits header = true)
    (hs : Handles s (.frame header userdata sends) s') : SameClock s.heard s' := by
  have hself : SameClock s.heard s.heard := ⟨rfl, rfl, rfl, rfl, rfl⟩
  have hcancel : SameClock s.heard s.heard.cancelTimer := ⟨rfl, rfl, rfl, rfl, rfl⟩
  have hack : SameClock s.heard s.ackHeard :=
    (sameClock_note _ .acknowledged).trans ⟨rfl, rfl, rfl, rfl, rfl⟩
  have hanswer := s.heard.sameClock_transmit false (ackFrame s.config)
  cases hs with
  | ignored e hignores => exact absurd (hadmits.symm.trans hignores) nofun
  | heard => exact hself
  | ackReset header userdata sends segments =>
    have hreset : SameClock s.heard s.resetHeard :=
      (sameClock_note _ .resetAcknowledged).trans ⟨rfl, rfl, rfl, rfl, rfl⟩
    have htransmit := hreset.trans
      (s.resetHeard.sameClock_transmit true (confirmedFrame s.config true segments.current))
    exact (htransmit.trans (sameClock_post _ (.onStateChange .reset))).trans
      (sameClock_setPriState _ _)
  | ackNext header userdata sends current next rest =>
    have hset : SameClock s.ackHeard (s.ackHeard.setSegments ⟨next, rest⟩) :=
      ⟨rfl, rfl, rfl, rfl, rfl⟩
    exact (hack.trans hset).transmits _ _
  | ackLast => exact hack.trans (sameClock_completed _ _)
  | refused => exact hcancel.trans (sameClock_completed _ _)
  | nackFull =>
    have hposted := s.heard.sameClock_post (.onStateChange .unreset)
    have hcancelled : SameClock (s.heard.postStatusCallback .unreset)
        (s.heard.postStatusCallback .unreset).cancelTimer := ⟨rfl, rfl, rfl, rfl, rfl⟩
    exact (hposted.trans hcancelled).trans (sameClock_completed _ _)
  | nackReset =>
    have hposted := s.heard.sameClock_post (.onStateChange .unreset)
    have hretry : SameClock (s.heard.postStatusCallback .unreset)
        (s.heard.postStatusCallback .unreset).resetRetry.cancelTimer := ⟨rfl, rfl, rfl, rfl, rfl⟩
    exact (hposted.trans hretry).transmits _ _
  | reported =>
    exact (hcancel.trans (sameClock_note _ .keepAliveSuccess)).trans (sameClock_setPriState _ _)
  | notReported => exact hcancel.trans (sameClock_setPriState _ _)
  | tested | reset =>
    generalize s.heard.transmit false (ackFrame s.config) = x at hanswer ⊢
    exact hanswer.trans ⟨rfl, rfl, rfl, rfl, rfl⟩
  | requested =>
    exact (s.heard.sameClock_transmit false (linkStatusFrame s.config)).trans
      (sameClock_setSecState _ _)
  | accepted header userdata =>
    generalize s.heard.transmit false (ackFrame s.config) = x at hanswer ⊢
    have htoggled : SameClock s.heard x.toggleReadFCB := hanswer.trans ⟨rfl, rfl, rfl, rfl, rfl⟩
    exact (htoggled.trans (sameClock_note _ (.received userdata))).trans (sameClock_setSecState _ _)
  | repeated => exact hanswer.trans (sameClock_setSecState _ _)
  | unconfirmed header userdata => exact sameClock_note _ (.received userdata)

/-- What an event does to the clock before anything is started. -/
theorem ticks_handles {e : Event} (hs : Handles s e s') : Ticks s e s' := by
  have hself : SameClock s s := ⟨rfl, rfl, rfl, rfl, rfl⟩
  have hexpired : SameClock s s.expired := ⟨rfl, rfl, rfl, rfl, rfl⟩
  have hretried : SameClock s s.retried := ⟨rfl, rfl, rfl, rfl, rfl⟩
  cases e with
  | frame header userdata sends =>
    cases hadmits : s.admits header with
    | true => exact .heard header userdata sends s' hadmits (sameClock_frame hadmits hs)
    | false =>
      cases hs with
      | ignored => exact .same _ s hself
      | _ => simp_all
  | lowerLayerUp sends =>
    cases hs with
    | ignored => exact .same _ s hself
    | up _ hoff => exact .up sends _ hoff ⟨rfl, rfl, rfl, rfl, rfl⟩
  | lowerLayerDown =>
    cases hs with
    | ignored => exact .same _ s hself
    | down => exact .down _ ⟨rfl, rfl, rfl, rfl, rfl⟩
  | send segments =>
    cases hs with
    | ignored => exact .same _ s hself
  | transmitResult success =>
    refine .same _ s' ?_
    cases hs with
    | ignored => exact hself
    | awaiting state =>
      have hreleased := s.sameClock_released true true
      generalize s.released true true = x at hreleased ⊢
      exact hreleased.trans ⟨rfl, rfl, rfl, rfl, rfl⟩
    | notSent => exact (s.sameClock_released true false).trans (sameClock_completed _ _)
    | notRequested => exact (s.sameClock_released true false).trans (sameClock_setPriState _ _)
    | unconfirmedNext success current next rest =>
      have hset : SameClock (s.released true success)
          ((s.released true success).setSegments ⟨next, rest⟩) := ⟨rfl, rfl, rfl, rfl, rfl⟩
      exact ((s.sameClock_released true success).trans hset).transmits _ _
    | unconfirmedLast => exact (s.sameClock_released true success).trans (sameClock_completed _ _)
    | answered => exact (s.sameClock_released false success).trans (sameClock_setSecState _ _)
  | responseTimeout =>
    refine .same _ s' ?_
    cases hs with
    | ignored => exact hself
    | resetRetried | dataRetried => exact hretried.transmits _ _
    | resetExpired => exact hexpired.trans (sameClock_completed _ _)
    | dataExpired =>
      exact (hexpired.trans (sameClock_post _ (.onStateChange .unreset))).trans
        (sameClock_completed _ _)
    | requestExpired =>
      exact (hexpired.trans (sameClock_note _ .keepAliveFailure)).trans (sameClock_setPriState _ _)
  | keepAliveTimeout =>
    cases hs with
    | ignored => exact .same _ s hself
    | keepAlive hdue => exact .keepAlive _ hdue ⟨rfl, rfl, rfl, rfl, rfl⟩
  | runPosted sends =>
    refine .same _ s' ?_
    cases hs with
    | ignored => exact hself
    | ran sends callback rest =>
      have hrest : SameClock s { s with callbacks := rest } := ⟨rfl, rfl, rfl, rfl, rfl⟩
      exact hrest.trans (sameClock_note _ _)
  | elapse milliseconds =>
    cases hs with
    | ignored _ hignores => exact hignores.elim
    | elapsed => exact .elapsed milliseconds _ ⟨rfl, rfl, rfl, rfl, rfl⟩

/-- What a step does to the clock. -/
theorem ticks_step (h : Steady s) (e : Event) : Ticks s e (s.step e) := by
  obtain ⟨s₁, hhandles, hstarts⟩ := handled_step h e
  have hsame := sameClock_starts hstarts
  cases ticks_handles hhandles with
  | same _ _ h => exact .same _ _ (h.trans hsame)
  | heard header userdata sends _ hadmits h =>
    exact .heard header userdata sends _ hadmits (h.trans hsame)
  | up sends _ hoff h => exact .up sends _ hoff (h.trans hsame)
  | down _ h => exact .down _ (h.trans hsame)
  | elapsed milliseconds _ h => exact .elapsed milliseconds _ (h.trans hsame)
  | keepAlive _ hdue h => exact .keepAlive _ hdue (h.trans hsame)

theorem config_step (h : Steady s) (e : Event) : (s.step e).config = s.config := by
  cases ticks_step h e with
  | same _ _ h | heard _ _ _ _ _ h | up _ _ _ h | down _ h | elapsed _ _ h => exact h.config
  | keepAlive _ _ h =>
    refine h.config.trans ?_
    unfold rearmed
    split <;> rfl

/-! ## The timer -/

/-- The timer of a link that is online expires in time, and was not started long after the last
frame. -/
structure Watched (s : LinkContext) : Prop where
  duration : 0 ≤ s.config.keepAliveTimeout
  running : s.isOnline = true → ∃ expiration, s.keepAliveTimer = some expiration ∧
    s.now ≤ expiration ∧ expiration ≤ s.now + s.config.keepAliveTimeout ∧
    expiration ≤ s.lastMessageTimestamp + 2 * s.config.keepAliveTimeout ∧
    s.lastMessageTimestamp ≤ s.now

theorem Watched.of_same (h : Watched s) (hs : SameClock s s') : Watched s' := by
  refine ⟨by rw [hs.config]; exact h.duration, ?_⟩
  rw [hs.isOnline, hs.keepAliveTimer, hs.now, hs.config, hs.lastMessageTimestamp]
  exact h.running

/-- The timer stays on time as long as time does not pass it. -/
theorem Watched.step (h : Watched s) (hsteady : Steady s) {e : Event} (htime : s.OnTime e) :
    Watched (s.step e) := by
  have hduration := h.duration
  cases ticks_step hsteady e with
  | same _ _ hsame => exact h.of_same hsame
  | heard header userdata sends _ hadmits hsame =>
    have hheard : Watched s.heard := by
      refine ⟨hduration, fun honline => ?_⟩
      obtain ⟨expiration, htimer, hnow, hstart, _, _⟩ := h.running honline
      refine ⟨expiration, htimer, hnow, hstart, ?_, Int.le_refl _⟩
      change expiration ≤ s.now + 2 * s.config.keepAliveTimeout
      omega
    exact hheard.of_same hsame
  | up sends _ hoff hsame =>
    have hup : Watched s.wakened := by
      have htimer : s.wakened.keepAliveTimer = some (s.now + s.config.keepAliveTimeout) := by
        change some (s.keepAliveTimer.getD (s.now + s.config.keepAliveTimeout)) = _
        rw [(hsteady.offline hoff).keepAliveTimer]
        rfl
      refine ⟨hduration, fun _ => ⟨_, htimer, ?_, Int.le_refl _, ?_, Int.le_refl _⟩⟩
      · change s.now ≤ s.now + s.config.keepAliveTimeout
        omega
      · change s.now + s.config.keepAliveTimeout ≤ s.now + 2 * s.config.keepAliveTimeout
        omega
    exact hup.of_same hsame
  | down _ hsame =>
    have hdown : Watched s.shut := ⟨hduration, nofun⟩
    exact hdown.of_same hsame
  | elapsed milliseconds _ hsame =>
    have helapsed : Watched { s with now := s.now + milliseconds } := by
      refine ⟨hduration, fun honline => ?_⟩
      obtain ⟨expiration, htimer, hnow, hstart, hlast, hpast⟩ := h.running honline
      have hlate : s.now + milliseconds ≤ expiration := by
        unfold OnTime at htime
        rw [htimer] at htime
        exact of_decide_eq_true htime
      refine ⟨expiration, htimer, hlate, ?_, hlast, ?_⟩
      · change expiration ≤ s.now + milliseconds + s.config.keepAliveTimeout
        omega
      · change s.lastMessageTimestamp ≤ s.now + milliseconds
        omega
    exact helapsed.of_same hsame
  | keepAlive _ hdue hsame =>
    have hrearmed : Watched s.rearmed := by
      refine ⟨by unfold rearmed; split <;> exact hduration, fun honline => ?_⟩
      have honline' : s.isOnline = true := by
        unfold rearmed at honline
        split at honline <;> exact honline
      obtain ⟨expiration, htimer, hnow, hstart, hlast, hpast⟩ := h.running honline'
      refine ⟨s.now + s.config.keepAliveTimeout, ?_⟩
      unfold rearmed
      split
      next =>
        refine ⟨rfl, ?_, Int.le_refl _, ?_, Int.le_refl _⟩
        · change s.now ≤ s.now + s.config.keepAliveTimeout
          omega
        · change s.now + s.config.keepAliveTimeout ≤ s.now + 2 * s.config.keepAliveTimeout
          omega
      next hrecent =>
        refine ⟨rfl, ?_, Int.le_refl _, ?_, hpast⟩
        · change s.now ≤ s.now + s.config.keepAliveTimeout
          omega
        · change s.now + s.config.keepAliveTimeout ≤
            s.lastMessageTimestamp + 2 * s.config.keepAliveTimeout
          omega
    exact hrearmed.of_same hsame

/-! ## Silence -/

/-- As long as the timer does not notice the silence, no frame comes and the link stays online, the
last frame stays the last. -/
theorem lastMessageTimestamp_step (hsteady : Steady s) {e : Event} (hquiet : ¬ s.Disturbs e)
    (hnot : ¬ s.Notices e) (honline : s.isOnline = true) :
    (s.step e).lastMessageTimestamp = s.lastMessageTimestamp ∧ (s.step e).isOnline = true ∧
      (s.step e).config = s.config := by
  cases ticks_step hsteady e with
  | same _ _ hsame =>
    exact ⟨hsame.lastMessageTimestamp, hsame.isOnline.trans honline, hsame.config⟩
  | heard header userdata sends _ hadmits => exact absurd hadmits hquiet
  | up sends _ hoff => exact absurd (honline.symm.trans hoff) nofun
  | down => exact absurd trivial hquiet
  | elapsed milliseconds _ hsame =>
    exact ⟨hsame.lastMessageTimestamp, hsame.isOnline.trans honline, hsame.config⟩
  | keepAlive _ hdue hsame =>
    have hrecent : ¬ s.config.keepAliveTimeout ≤ s.now - s.lastMessageTimestamp :=
      fun hsilent => hnot ⟨rfl, hdue, hsilent⟩
    have hrearmed : s.rearmed.lastMessageTimestamp = s.lastMessageTimestamp ∧
        s.rearmed.isOnline = true ∧ s.rearmed.config = s.config := by
      unfold rearmed
      rw [if_neg hrecent]
      exact ⟨rfl, honline, rfl⟩
    exact ⟨hsame.lastMessageTimestamp.trans hrearmed.1, hsame.isOnline.trans hrearmed.2.1,
      hsame.config.trans hrearmed.2.2⟩

theorem exists_log_transmit (s : LinkContext) (primary : Bool) (frame : Format) :
    ∃ entries, (s.transmit primary frame).log = s.log ++ entries := by
  unfold transmit queueTransmit
  split
  · cases primary <;> exact ⟨_, List.append_assoc _ _ _⟩
  · cases primary <;> exact ⟨_, List.append_assoc _ _ _⟩

/-- When the timer notices the silence the status is requested. -/
theorem requests_of_notices {e : Event} (h : s.Notices e) : Requests s (s.step e) := by
  obtain ⟨rfl, hdue, hsilent⟩ := h
  have hstep : s.step .keepAliveTimeout = s.rearmed.tryStartTransmission := by
    change (if s.isDue s.keepAliveTimer then s.onKeepAliveTimeout else s) = _
    rw [if_pos hdue, onKeepAliveTimeout_eq]
  obtain ⟨hflag, hstate, hlog⟩ : s.rearmed.keepAliveTimeout = true ∧
      s.rearmed.pPriState = s.pPriState ∧ s.rearmed.log = s.log := by
    unfold rearmed
    rw [if_pos hsilent]
    exact ⟨rfl, rfl, rfl⟩
  rw [hstep, tryStartTransmission_eq, if_pos hflag]
  by_cases hidle : s.pPriState = .idle
  · refine .inl ⟨hidle, ?_⟩
    rw [storePri_trySendRequestLinkStatus_idle (hstate.trans hidle),
      tryStartSegments_busy (show s.rearmed.requested.pPriState ≠ .idle from nofun)]
    obtain ⟨entries, hentries⟩ := exists_log_transmit { s.rearmed with keepAliveTimeout := false }
      true (requestFrame s.rearmed.config)
    have hrequested : s.rearmed.requested.log =
        s.log ++ (entries ++ [LinkEntry.keepAliveInitiated]) := by
      rw [← hlog, ← List.append_assoc]
      exact congrArg (· ++ _) hentries
    rw [hrequested, List.drop_left]
    exact List.mem_append_right entries (List.mem_singleton.mpr rfl)
  · have hbusy : s.rearmed.pPriState ≠ .idle := fun h => hidle (hstate.symm.trans h)
    refine .inr ⟨hidle, ?_⟩
    rw [storePri_trySendRequestLinkStatus hbusy, tryStartSegments_busy hbusy]
    exact hflag

/-- The link has been watched, and has heard nothing since. -/
structure QuietSince (since : LinkContext) (s : LinkContext) : Prop where
  steady : Steady s
  watched : Watched s
  online : s.isOnline = true
  last : s.lastMessageTimestamp = since.lastMessageTimestamp
  config : s.config = since.config

theorem QuietSince.step {since : LinkContext} (h : QuietSince since s) {e : Event}
    (htime : s.OnTime e)
    (hquiet : ¬ s.Disturbs e) (hnot : ¬ s.Notices e) : QuietSince since (s.step e) := by
  obtain ⟨hlast, honline, hconfig⟩ := lastMessageTimestamp_step h.steady hquiet hnot h.online
  exact ⟨h.steady.step e, h.watched.step h.steady htime, honline, hlast.trans h.last,
    hconfig.trans h.config⟩

/-- A link that is online and hears nothing for more than twice the keep-alive time, its timer
running on time, requests the status of the link meanwhile. -/
theorem silence_noticed {config : LinkConfig} {now : Int} {front events : List Event}
    (hduration : 0 ≤ config.keepAliveTimeout)
    (htime : Throughout step OnTime (initial config now) (front ++ events))
    (honline : (run step (initial config now) front).isOnline = true)
    (hquiet : Throughout step (fun s e => ¬ s.Disturbs e) (run step (initial config now) front)
      events)
    (hlate : (run step (initial config now) front).now + 2 * config.keepAliveTimeout <
      (run step (run step (initial config now) front) events).now) :
    ∃ before e after, events = before ++ e :: after ∧
      Requests (run step (run step (initial config now) front) before)
        (step (run step (run step (initial config now) front) before) e) := by
  obtain ⟨hfront, hevents⟩ := throughout_append.mp htime
  have hstart : Steady (run step (initial config now) front) ∧
      Watched (run step (initial config now) front) ∧
      (run step (initial config now) front).config = config := by
    refine run_invariant (I := fun s => Steady s ∧ Watched s ∧ s.config = config) ?_
      ⟨steady_initial config now, ⟨hduration, nofun⟩, rfl⟩ hfront
    rintro s e ⟨hsteady, hwatched, hconfig⟩ htime
    exact ⟨hsteady.step e, hwatched.step hsteady htime, (config_step hsteady e).trans hconfig⟩
  obtain ⟨hsteady, hwatched, hconfig⟩ := hstart
  generalize run step (initial config now) front = s at *
  rcases throughout_not_or Notices s events with hnot | ⟨before, e, after, rfl, hnotices⟩
  · have hsilent : QuietSince s (run step s events) := by
      refine run_invariant (P := fun s e => s.OnTime e ∧ ¬ s.Disturbs e ∧ ¬ s.Notices e) ?_
        ⟨hsteady, hwatched, honline, rfl, rfl⟩ (hevents.and (hquiet.and hnot))
      rintro s' e h ⟨htime, hquiet, hnot⟩
      exact h.step htime hquiet hnot
    obtain ⟨expiration, _, hnow, _, hexpires, _⟩ := hsilent.watched.running hsilent.online
    obtain ⟨_, _, _, _, _, hpast⟩ := hwatched.running honline
    rw [hsilent.last, hsilent.config, hconfig] at hexpires
    omega
  · exact ⟨before, e, after, rfl, requests_of_notices hnotices⟩

/-- A link that is told to hold the status up to date every ten milliseconds. -/
def exampleConfig : LinkConfig where
  isMaster := true
  useConfirms := false
  numRetry := 0
  localAddr := 1
  remoteAddr := 1024
  timeout := 1
  keepAliveTimeout := 10

/-- Time passes, the timer expires twice, and nothing is heard. -/
def silentEvents : List Event :=
  [.elapse 10, .keepAliveTimeout, .elapse 10, .keepAliveTimeout, .elapse 5]

theorem silence_noticed_example : ∃ before e after, silentEvents = before ++ e :: after ∧
    Requests (run step (run step (initial exampleConfig 0) [Event.lowerLayerUp []]) before)
      (step (run step (run step (initial exampleConfig 0) [Event.lowerLayerUp []]) before) e) :=
  silence_noticed (by decide) (by decide) rfl (by decide) (by decide)

end LinkContext
end Link
end Dnp3
