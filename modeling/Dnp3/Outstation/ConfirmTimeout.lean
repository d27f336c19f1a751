import Dnp3.Outstation.RepeatedRequests

/-!
# The timer of a wait

An outstation that waits for a confirm should stop waiting after a while.  One timer serves the wait
for the confirm of a solicited response and that for the confirm of an unsolicited one, and both
start it with the timeout of unsolicited responses.  A timer that runs is not started anew, and an
unsolicited response may be sent while the confirm of a solicited one is awaited; then the timer is
that of the solicited response, and nothing ends the wait for the other confirm.

The waits are as they should be, in all the states of a run, if and only if no unsolicited response
is sent during a solicited wait and the two timeouts agree, unless there is no solicited wait at
all.
-/

namespace Dnp3
namespace Outstation

open App Library

namespace OContext

variable {W : Type} {cb : Callbacks W}

/-- Each wait has the timer that ends it after its own timeout. -/
structure WaitsEnd (s : OContext W) : Prop where
  sol : s.sol.pState = .confirmWait →
    s.confirmTimer = some ⟨s.params.solConfirmTimeout, .solicited⟩
  unsol : s.unsol.pState = .confirmWait →
    s.confirmTimer = some ⟨s.params.unsolConfirmTimeout, .unsolicited⟩

/-- No unsolicited response is sent while the confirm of a solicited one is awaited. -/
def SendsOneAtATime (s : OContext W) : Action W → Prop
  | .checkForUnsolicited => s.willSendUnsolicited = true → s.sol.pState = .idle
  | _ => True

/-! ## What one timer can guard -/

/-- Each wait has its own timer, started with the timeout of unsolicited responses, and no timer
runs without a wait. -/
structure Guarded (s : OContext W) : Prop where
  sol : s.sol.pState = .confirmWait →
    s.confirmTimer = some ⟨s.params.unsolConfirmTimeout, .solicited⟩
  unsol : s.unsol.pState = .confirmWait →
    s.confirmTimer = some ⟨s.params.unsolConfirmTimeout, .unsolicited⟩
  neither : s.sol.pState = .idle → s.unsol.pState = .idle → s.confirmTimer = none

namespace Guarded

variable {s s' : OContext W}

theorem congr (h : Guarded s) (htimer : s'.confirmTimer = s.confirmTimer)
    (hparams : s'.params.unsolConfirmTimeout = s.params.unsolConfirmTimeout)
    (hsol : s'.sol.pState = s.sol.pState) (hunsol : s'.unsol.pState = s.unsol.pState) :
    Guarded s' := by
  constructor
  · rw [hsol, htimer, hparams]
    exact h.sol
  · rw [hunsol, htimer, hparams]
    exact h.unsol
  · rw [hsol, hunsol, htimer]
    exact h.neither

/-- There is one wait at most. -/
theorem unsol_idle (h : Guarded s) (hsol : s.sol.pState = .confirmWait) :
    s.unsol.pState = .idle := by
  cases hunsol : s.unsol.pState with
  | idle => rfl
  | confirmWait =>
    have htimer := h.sol hsol
    rw [h.unsol hunsol] at htimer
    cases htimer

theorem sol_idle (h : Guarded s) (hunsol : s.unsol.pState = .confirmWait) :
    s.sol.pState = .idle := by
  cases hsol : s.sol.pState with
  | idle => rfl
  | confirmWait =>
    rw [h.unsol_idle hsol] at hunsol
    cases hunsol

/-- Nothing is awaited, and no timer runs. -/
theorem of_idle (hsol : s.sol.pState = .idle) (hunsol : s.unsol.pState = .idle)
    (htimer : s.confirmTimer = none) : Guarded s := by
  constructor
  · intro h
    rw [hsol] at h
    cases h
  · intro h
    rw [hunsol] at h
    cases h
  · exact fun _ _ => htimer

theorem initial (world : W) (now : Int) (events : EventBufferConfig) (database : DatabaseBuffers)
    (params : OutstationParams) :
    Guarded (OContext.initial world now events database params) := of_idle rfl rfl rfl

/-- A fragment of a READ is sent while nothing is awaited. -/
theorem sentRead {r : SentRead} (hunsol : s.unsol.pState = .idle) (htimer : s.confirmTimer = none)
    (hr : r.confirmTimer = s.timerAwaiting r.fragment.control.CON) (e : Effect) :
    Guarded ((s.sentRead r).note e) := by
  rw [timerAwaiting, htimer] at hr
  cases hcon : r.fragment.control.CON with
  | true =>
    rw [hcon, if_pos rfl] at hr
    constructor
    · exact fun _ => hr
    · intro h
      rw [show ((s.sentRead r).note e).unsol.pState = s.unsol.pState from rfl, hunsol] at h
      cases h
    · intro h
      simp only [OContext.sentRead, note, hcon, if_true] at h
      cases h
  | false =>
    rw [hcon, if_neg Bool.false_ne_true] at hr
    refine of_idle ?_ hunsol hr
    simp only [OContext.sentRead, note, hcon, Bool.false_eq_true, if_false]

theorem takesRequest {header : APDUHeader} {objects : List UInt8} (h : Guarded s)
    (ht : TakesRequest cb s header objects s') : Guarded s' := by
  cases ht with
  | unsolicited huns => exact h
  | repeatedRead huns hrepeat hread => exact h
  | repeated huns hrepeat hread hsol => exact h.congr rfl rfl rfl rfl
  | repeatedWaiting huns hrepeat hread hsol => exact h.congr rfl rfl rfl rfl
  | abandons huns hnew hsol => exact of_idle rfl (h.unsol_idle hsol) rfl
  | defersRead huns hnew hread hsol hunsol => exact h.congr rfl rfl rfl rfl
  | read huns hnew hread hsol hunsol =>
    obtain ⟨r, -, -, htimer, heq⟩ :=
      @respondToReadRequest_state W cb (s.withSeq header) header objects
    rw [heq]
    exact sentRead (s := (s.withSeq header).recorded header objects) hunsol
      (h.neither hsol hunsol) htimer _
  | nonRead huns hnew hread hsol =>
    obtain ⟨s₁, tx, hs₁, heq⟩ := @respondToNonReadRequest_eq W cb (s.withSeq header) header objects
    rw [heq]
    obtain ⟨world, staticIIN, control, database, mask, effects, rfl, -, -, -⟩ := hs₁
    exact h.congr rfl rfl hsol.symm rfl

theorem takesConfirm {header : APDUHeader} (h : Guarded s)
    (ht : TakesConfirm cb s header s') : Guarded s' := by
  cases ht with
  | ignoredSol huns hsol => exact h
  | ignoredUnsol huns hunsol => exact h
  | last huns hsol hseq hselection => exact of_idle rfl (h.unsol_idle hsol) rfl
  | more huns hsol hseq hselection =>
    obtain ⟨r, -, -, htimer, heq⟩ := @continueMultiFragResponse_state W cb
      (s.takeConfirm header.control) (header.control.SEQ + 1)
    rw [heq]
    exact sentRead (s := s.takeConfirm header.control) (h.unsol_idle hsol) rfl htimer _
  | null huns hunsol hseq hnull => exact of_idle (h.sol_idle hunsol) rfl rfl
  | events huns hunsol hseq hnull => exact of_idle (h.sol_idle hunsol) rfl rfl

theorem takesFragment (h : Guarded s) (ht : TakesFragment cb s s') : Guarded s' := by
  cases ht with
  | ignored => exact h
  | noAck world => exact h.congr rfl rfl rfl rfl
  | deferred header objects htx =>
    unfold noteConfirm
    split
    · exact h.congr rfl rfl rfl rfl
    · exact h.congr rfl rfl rfl rfl
  | confirm header htx hfunction hc =>
    have hnoted : Guarded (s.note (.confirmReceived header.control)) := h.congr rfl rfl rfl rfl
    exact hnoted.takesConfirm hc
  | request header objects htx hfunction hr => exact h.takesRequest hr

theorem takesDeferred (h : Guarded s) (ht : TakesDeferred cb s s') : Guarded s' := by
  cases ht with
  | nothing _ => exact h
  | waits hset hread hunsol => exact h
  | confirm hcan hset hfunction hc => exact (h.takesConfirm hc).congr rfl rfl rfl rfl
  | request hcan hset hfunction hread hr => exact (h.takesRequest hr).congr rfl rfl rfl rfl

theorem expires (h : Guarded s) (he : Expires s s') : Guarded s' := by
  cases he with
  | inactive htimer => exact h
  | solicited timeout htimer hsol => exact of_idle rfl (h.unsol_idle hsol) rfl
  | unsolicited timeout htimer hunsol => exact of_idle (h.sol_idle hunsol) rfl rfl
  | unexpected timer htimer hsol hunsol =>
    -- a timer runs only for the wait that it ends
    cases hstate : s.sol.pState with
    | idle =>
      cases hstate' : s.unsol.pState with
      | idle => exact of_idle hstate hstate' rfl
      | confirmWait =>
        have hrunning := h.unsol hstate'
        rw [htimer] at hrunning
        cases hrunning
        rw [hunsol rfl] at hstate'
        cases hstate'
    | confirmWait =>
      have hrunning := h.sol hstate
      rw [htimer] at hrunning
      cases hrunning
      rw [hsol rfl] at hstate
      cases hstate

theorem sendUnsolFrom (hsol : s.sol.pState = .idle) (htimer : s.confirmTimer = none)
    (tx : TxBuffer) (e : Effect) : Guarded ((s.sendUnsolFrom tx).note e) := by
  unfold OContext.sendUnsolFrom startUnsolicitedConfirmTimer
  rw [startConfirmTimer_eq]
  constructor
  · intro h
    rw [show s.sol.pState = .confirmWait from h] at hsol
    cases hsol
  · intro _
    show some (s.confirmTimer.getD _) = _
    rw [htimer]
    rfl
  · intro _ h
    cases h

theorem sendsUnsolicited (h : Guarded s) (hok : s.willSendUnsolicited = true → s.sol.pState = .idle)
    (hs : SendsUnsolicited cb s s') : Guarded s' := by
  cases hs with
  | nothing => exact h
  | null tx hcan hnull =>
    have hsol := hok (by rw [willSendUnsolicited, hcan, hnull]; rfl)
    have hunsol : s.unsol.pState = .idle := by
      rw [canSendUnsolicited, Bool.and_eq_true, Bool.and_eq_true, unsol_isIdle] at hcan
      exact hcan.1.2
    exact sendUnsolFrom hsol (h.neither hsol hunsol) tx _
  | events writer tx hcan hnull hevents =>
    have hsol := hok (by rw [willSendUnsolicited, hcan, hevents, Bool.or_true]; rfl)
    have hunsol : s.unsol.pState = .idle := by
      rw [canSendUnsolicited, Bool.and_eq_true, Bool.and_eq_true, unsol_isIdle] at hcan
      exact hcan.1.2
    exact sendUnsolFrom (s := (s.loadUnsolicited writer).1) hsol (h.neither hsol hunsol) tx _

theorem updatePoint (h : Guarded s) (u : DatabaseBuffers.PointUpdate) :
    Guarded (s.updatePoint u) := by
  unfold OContext.updatePoint
  split
  · exact h.congr rfl rfl rfl rfl
  · exact h.congr rfl rfl rfl rfl

theorem onLowerLayerDown (h : Guarded s) : Guarded s.onLowerLayerDown := by
  unfold OContext.onLowerLayerDown
  split
  · exact of_idle rfl rfl rfl
  · exact h

/-- Every action keeps it, if unsolicited responses are sent when nothing else is awaited. -/
theorem perform (h : Guarded s) (a : Action W) (hok : s.SendsOneAtATime a) :
    Guarded (s.perform cb a) := by
  cases a with
  | goOnline => exact h.congr rfl rfl rfl rfl
  | goOffline => exact h.onLowerLayerDown
  | transmitted =>
    have htransmitted : Guarded { s with isTransmitting := false } := h.congr rfl rfl rfl rfl
    exact htransmitted.takesDeferred (OContext.takesDeferred _)
  | parse fragment => exact h.takesFragment (s.takesFragment fragment)
  | expire => exact h.expires s.expires
  | updatePoint u => exact h.updatePoint u
  | checkForDeferredRequest => exact h.takesDeferred s.takesDeferred
  | checkForUnsolicited => exact h.sendsUnsolicited hok s.sendsUnsolicited
  | setRestartIIN => exact h.congr rfl rfl rfl rfl
  | elapse milliseconds => exact h.congr rfl rfl rfl rfl
  | surroundings world => exact h.congr rfl rfl rfl rfl

end Guarded

/-! ## All states of a run -/

/-- An unsolicited response that is about to be sent is awaited afterwards; whether a solicited
confirm is awaited does not change. -/
theorem checkForUnsolicited_waits {s : OContext W} (h : s.willSendUnsolicited = true) :
    (s.checkForUnsolicited cb).isOnline = true ∧
      (s.checkForUnsolicited cb).unsol.pState = .confirmWait ∧
      (s.checkForUnsolicited cb).sol.pState = s.sol.pState := by
  have honline : s.isOnline = true := by
    simp only [willSendUnsolicited, canSendUnsolicited, canTransmit, Bool.and_eq_true] at h
    exact h.1.1.1.1
  have hsends := @sendsUnsolicited W cb s
  generalize s.checkForUnsolicited cb = s' at hsends ⊢
  cases hsends with
  | nothing hnot =>
    rw [h] at hnot
    cases hnot
  | null tx hcan hnull =>
    unfold sendUnsolFrom startUnsolicitedConfirmTimer
    rw [startConfirmTimer_eq]
    exact ⟨honline, rfl, rfl⟩
  | events writer tx hcan hnull hevents =>
    unfold sendUnsolFrom startUnsolicitedConfirmTimer
    rw [startConfirmTimer_eq]
    exact ⟨honline, rfl, rfl⟩

/-- Two waits at once do not both end. -/
theorem WaitsEnd.not_both {s : OContext W} (h : s.WaitsEnd) (hsol : s.sol.pState = .confirmWait) :
    s.unsol.pState ≠ .confirmWait := by
  intro hunsol
  have htimer := h.sol hsol
  rw [h.unsol hunsol] at htimer
  simp at htimer

/-- In an event after which every wait ends, unsolicited responses are sent one at a time. -/
theorem sendsOneAtATime_actions {s : OContext W} {e : Event W}
    (h : (s.step cb e).isOnline = true → (s.step cb e).WaitsEnd) :
    Throughout (perform cb) SendsOneAtATime s (s.actions e) := by
  have hfree : ∀ a : Action W, a ≠ .checkForUnsolicited → ∀ s, SendsOneAtATime s a := by
    intro a ha s
    cases a with
    | checkForUnsolicited => exact absurd rfl ha
    | _ => exact trivial
  rcases actions_eq s e with hnone | ⟨before, heq, hbefore⟩
  · exact throughout_of_forall fun a ha => hfree a (hnone a ha)
  · rw [step_eq, heq, run_append] at h
    rw [heq, throughout_append]
    refine ⟨throughout_of_forall fun a ha => hfree a (hbefore a ha), ?_, trivial⟩
    intro hwill
    obtain ⟨honline, hunsol, hsol⟩ := @checkForUnsolicited_waits W cb _ hwill
    cases hstate : (run (perform cb) s before).sol.pState with
    | idle => rfl
    | confirmWait => exact absurd hunsol ((h honline).not_both (hsol.trans hstate))

theorem actsThroughout_of_waitsEnd {s : OContext W} {events : List (Event W)} (hs : Guarded s)
    (h : Always (step cb) (fun s => s.isOnline = true → s.WaitsEnd) s events) :
    ActsThroughout cb SendsOneAtATime s events := by
  induction events generalizing s with
  | nil => exact trivial
  | cons e es ih =>
    have hacts := sendsOneAtATime_actions h.2.head
    refine ⟨hacts, ih ?_ h.2⟩
    rw [step_eq]
    exact run_invariant (fun s a => Guarded.perform (a := a)) hs hacts

/-- In all states of a run every wait ends after its own timeout, if and only if unsolicited
responses are sent when no solicited confirm is awaited, and the two timeouts agree or no solicited
confirm is ever awaited. -/
theorem waits_end (world : W) (now : Int) (config : EventBufferConfig)
    (database : DatabaseBuffers) (params : OutstationParams) (events : List (Event W)) :
    Always (step cb) (fun s => s.isOnline = true → s.WaitsEnd)
        (initial world now config database params) events ↔
      ActsThroughout cb SendsOneAtATime (initial world now config database params) events ∧
        (params.solConfirmTimeout = params.unsolConfirmTimeout ∨
          Always (step cb) (fun s => s.isOnline = true → s.sol.pState = .idle)
            (initial world now config database params) events) := by
  have hinitial := Guarded.initial world now config database params
  have hparams : Always (step cb) (KeepsParams (initial world now config database params))
      (initial world now config database params) events :=
    always_step_keeps (fun s a hs => hs.trans (KeepsParams.perform s a)) events (.of_eq rfl)
  constructor
  · intro h
    have hacts := actsThroughout_of_waitsEnd hinitial h
    have hguarded := always_step_invariant (fun s a => Guarded.perform (a := a)) hinitial hacts
    refine ⟨hacts, ?_⟩
    by_cases htimeouts : params.solConfirmTimeout = params.unsolConfirmTimeout
    · exact .inl htimeouts
    · refine .inr ((h.and (hguarded.and hparams)).imp ?_)
      rintro s ⟨hends, hguard, mask, hkept⟩ honline
      cases hsol : s.sol.pState with
      | idle => rfl
      | confirmWait =>
        have htimer := (hends honline).sol hsol
        rw [hguard.sol hsol, hkept, Option.some.injEq, ConfirmTimer.mk.injEq] at htimer
        exact absurd htimer.1.symm htimeouts
  · rintro ⟨hacts, htimeouts⟩
    have hguarded := always_step_invariant (fun s a => Guarded.perform (a := a)) hinitial hacts
    rcases htimeouts with hsame | hidle
    · refine (hguarded.and hparams).imp ?_
      rintro s ⟨hguard, mask, hkept⟩ -
      have hsame' : s.params.solConfirmTimeout = s.params.unsolConfirmTimeout := by
        rw [hkept]
        exact hsame
      constructor
      · rw [hsame']
        exact hguard.sol
      · exact hguard.unsol
    · refine (hguarded.and hidle).imp ?_
      rintro s ⟨hguard, hsol⟩ honline
      constructor
      · intro hwait
        rw [hsol honline] at hwait
        cases hwait
      · exact hguard.unsol

/-! ## Waits that do not end -/

/-- Twenty counters, whose values need two fragments. -/
def twenty (params : OutstationParams) : OContext Nat :=
  initial 0 0 (.allTypes 4) (.ofType .counter 20) params

/-- An outstation of the example after some events. -/
def twentyAfter (params : OutstationParams) (events : List (Event Nat)) : OContext Nat :=
  run (step countingCallbacks) (twenty params) events

/-- A solicited confirm should be awaited for a shorter time. -/
def shortParams : OutstationParams := { smallParams with solConfirmTimeout := 2000 }

/-- A counter changes. -/
def counts (index : UInt16) (value : UInt32) : DatabaseBuffers.PointUpdate where
  type := .counter
  value := { value := value, quality := Flags.ONLINE, time := 0 }
  index := index
  mode := .detect

/-- The first unsolicited response is confirmed, and all counters are read. -/
def readingAll : List (Event Nat) :=
  [.lowerLayerUp, .sendResult true, .receive [0xD0, 0x00], .receive [0xC3, 0x01, 0x14, 0x00, 0x06],
    .sendResult true]

/-- Before the first fragment is confirmed, a counter changes. -/
def changedWhileReading : List (Event Nat) :=
  readingAll ++ [.updates [counts 1 7], .sendResult true, .receive [0xC3, 0x00], .sendResult true]

/-- The confirm of the first fragment stops the timer, and then no timer ends the wait for the
confirm of the unsolicited response; and a solicited wait does not end after its own timeout. -/
theorem not_waits_end :
    (¬ ∀ events, (twentyAfter smallParams events).isOnline = true →
      (twentyAfter smallParams events).WaitsEnd) ∧
    ¬ ∀ events, (twentyAfter shortParams events).isOnline = true →
      (twentyAfter shortParams events).WaitsEnd := by
  constructor
  · intro h
    have hwaits : (twentyAfter smallParams changedWhileReading).unsol.pState = .confirmWait := by
      decide +kernel
    have htimer : (twentyAfter smallParams changedWhileReading).confirmTimer = none := by
      decide +kernel
    have hends := h changedWhileReading (by decide +kernel)
    have hrunning := hends.unsol hwaits
    rw [htimer] at hrunning
    cases hrunning
  · intro h
    have hwaits : (twentyAfter shortParams readingAll).sol.pState = .confirmWait := by
      decide +kernel
    have htimer : (twentyAfter shortParams readingAll).confirmTimer = some ⟨5000, .solicited⟩ := by
      decide +kernel
    have htimeout : (twentyAfter shortParams readingAll).params.solConfirmTimeout = 2000 := by
      decide +kernel
    have hends := h readingAll (by decide +kernel)
    have hrunning := hends.sol hwaits
    rw [htimer, htimeout] at hrunning
    cases hrunning

end OContext
end Outstation
end Dnp3
