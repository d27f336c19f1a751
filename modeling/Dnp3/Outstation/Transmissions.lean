import Dnp3.Library.Observer
import Dnp3.Outstation.OutstationCases

/-!
# Transmissions of an outstation

The lower layer transmits one fragment at a time and reports the result; until then the fragment
stays in the buffer it was built in, for the lower layer reads it from there.
`transmissionObserver` follows the calls in both directions.  It lets a transmission begin only when
no result is awaited, and its books hold the fragment whose result is awaited.

An `OContext` does not remember its calls.  A `Transmitter` is an outstation with the calls so far,
which are read off the log: every function that builds a response hands it over at once and notes
it.  The functions are called with `isTransmitting` unset, so an action of an outstation leaves both
buffers alone or begins one transmission (`Transmits`).
-/

namespace Dnp3
namespace Outstation

open App Library

/-! ## The lower layer -/

/-- A call between an outstation and the layer below it. -/
inductive LowerLayerCall where
  | beginTransmit (unsolicited : Bool) (fragment : List UInt8)
  | sendResult
  | layerDown
  deriving DecidableEq, Repr

/-- A fragment that is being transmitted, from the buffer for solicited or for unsolicited
responses. -/
abbrev Transmission : Type := Bool × List UInt8

/-- A transmission begins only when no result is awaited. -/
def transmissionObserver : Observer (Option Transmission) LowerLayerCall where
  allows
    | awaited, .beginTransmit _ _ => awaited = none
    | _, _ => True
  next
    | _, .beginTransmit unsolicited fragment => some (unsolicited, fragment)
    | _, .sendResult => none
    | _, .layerDown => none

/-- The call that an effect tells of. -/
def Effect.lowerLayerCall : Effect → Option LowerLayerCall
  | .responded _ _ fragment => some (.beginTransmit false fragment.bytes)
  | .continued fragment => some (.beginTransmit false fragment.bytes)
  | .repeated _ _ bytes => some (.beginTransmit false bytes)
  | .unsolicited fragment => some (.beginTransmit true fragment.bytes)
  | .layerDown => some .layerDown
  | _ => none

theorem Effect.lowerLayerCall_of_isHandling {e : Effect} (h : e.isHandling = true) :
    e.lowerLayerCall = none := by
  cases e <;> first | rfl | cases h

theorem filterMap_lowerLayerCall_of_isHandling {effects : List Effect}
    (h : ∀ e ∈ effects, Effect.isHandling e = true) :
    effects.filterMap Effect.lowerLayerCall = [] :=
  List.filterMap_eq_nil_iff.mpr fun e he => Effect.lowerLayerCall_of_isHandling (h e he)

namespace OContext

variable {W : Type} {cb : Callbacks W}

/-! ## An action -/

/-- The buffer for solicited or for unsolicited responses. -/
def txBuffer (s : OContext W) (unsolicited : Bool) : TxBuffer :=
  if unsolicited then s.unsol.tx else s.sol.tx

/-- What is being transmitted stays: the buffers and `isTransmitting` are left alone. -/
structure KeepsTransmission (s s' : OContext W) : Prop where
  isTransmitting : s'.isTransmitting = s.isTransmitting
  sol : s'.sol.tx = s.sol.tx
  unsol : s'.unsol.tx = s.unsol.tx

/-- Either both buffers are left alone, or one transmission begins, of what is in its buffer then.
The calls are those noted in the log. -/
inductive Transmits (s s' : OContext W) : Prop where
  | nothing (effects : List Effect) (hlog : s'.log = s.log ++ effects)
      (hcalls : effects.filterMap Effect.lowerLayerCall = []) (hkeeps : KeepsTransmission s s')
  | begins (effects : List Effect) (unsolicited : Bool) (hlog : s'.log = s.log ++ effects)
      (hcalls : effects.filterMap Effect.lowerLayerCall =
        [.beginTransmit unsolicited (s'.txBuffer unsolicited).getLastResponse])
      (hfree : s.isTransmitting = false) (hbusy : s'.isTransmitting = true)

theorem KeepsTransmission.refl (s : OContext W) : KeepsTransmission s s := ⟨rfl, rfl, rfl⟩

theorem KeepsTransmission.txBuffer {s s' : OContext W} (h : KeepsTransmission s s')
    (unsolicited : Bool) : s'.txBuffer unsolicited = s.txBuffer unsolicited := by
  cases unsolicited with
  | true => exact h.unsol
  | false => exact h.sol

namespace Transmits

variable {s s' s'' : OContext W}

theorem refl (s : OContext W) : Transmits s s := .nothing [] (by simp) rfl (.refl s)

/-- The log and everything about transmissions stay. -/
theorem of_same (hlog : s'.log = s.log) (hkeeps : KeepsTransmission s s') : Transmits s s' :=
  .nothing [] (by rw [hlog, List.append_nil]) rfl hkeeps

/-- A transmission after a transmission is one transmission, as the second one begins only when
nothing is being transmitted. -/
theorem trans (h : Transmits s s') (h' : Transmits s' s'') : Transmits s s'' := by
  cases h with
  | nothing effects hlog hcalls hkeeps =>
    cases h' with
    | nothing effects' hlog' hcalls' hkeeps' =>
      refine .nothing (effects ++ effects') (by rw [hlog', hlog, List.append_assoc]) ?_
        ⟨hkeeps'.isTransmitting.trans hkeeps.isTransmitting, hkeeps'.sol.trans hkeeps.sol,
          hkeeps'.unsol.trans hkeeps.unsol⟩
      rw [List.filterMap_append, hcalls, hcalls']
      rfl
    | begins effects' unsolicited hlog' hcalls' hfree hbusy =>
      refine .begins (effects ++ effects') unsolicited (by rw [hlog', hlog, List.append_assoc]) ?_
        (hkeeps.isTransmitting.symm.trans hfree) hbusy
      rw [List.filterMap_append, hcalls, hcalls', List.nil_append]
  | begins effects unsolicited hlog hcalls hfree hbusy =>
    cases h' with
    | nothing effects' hlog' hcalls' hkeeps' =>
      refine .begins (effects ++ effects') unsolicited (by rw [hlog', hlog, List.append_assoc]) ?_
        hfree (hkeeps'.isTransmitting.trans hbusy)
      rw [List.filterMap_append, hcalls, hcalls', List.append_nil, hkeeps'.txBuffer]
    | begins effects' unsolicited' hlog' hcalls' hfree' hbusy' =>
      rw [hbusy] at hfree'
      cases hfree'

/-- What is done before a transmission is none of it. -/
theorem after (h : Transmits s' s'') {effects : List Effect} (hlog : s'.log = s.log ++ effects)
    (hcalls : effects.filterMap Effect.lowerLayerCall = []) (hkeeps : KeepsTransmission s s') :
    Transmits s s'' :=
  (Transmits.nothing effects hlog hcalls hkeeps).trans h

/-- A handler of requests transmits nothing. -/
theorem handled (h : Transmits s' s'') (hhandled : Handled s s') : Transmits s s'' := by
  obtain ⟨world, staticIIN, control, database, mask, effects, rfl, -, -, heffects⟩ := hhandled
  exact h.after rfl (filterMap_lowerLayerCall_of_isHandling heffects) ⟨rfl, rfl, rfl⟩

end Transmits

/-- What a request is answered with is sent when nothing is being transmitted. -/
theorem transmits_takesRequest {s s' : OContext W} {header : APDUHeader} {objects : List UInt8}
    (hfree : s.isTransmitting = false) (h : TakesRequest cb s header objects s') :
    Transmits s s' := by
  cases h with
  | unsolicited => exact .refl s
  | repeatedRead => exact .refl s
  | repeated => exact .begins _ false rfl rfl hfree rfl
  | repeatedWaiting => exact .of_same rfl ⟨rfl, rfl, rfl⟩
  | abandons => exact .nothing [.abandoned] rfl rfl ⟨rfl, rfl, rfl⟩
  | defersRead => exact .of_same rfl ⟨rfl, rfl, rfl⟩
  | read =>
    obtain ⟨r, hbytes, -, -, hstate⟩ :=
      @respondToReadRequest_state W cb (s.withSeq header) header objects
    rw [hstate]
    refine .begins [.responded header objects r.fragment] false rfl ?_ hfree rfl
    show [LowerLayerCall.beginTransmit false r.fragment.bytes] = _
    rw [hbytes]
    rfl
  | nonRead =>
    obtain ⟨s₁, tx, hhandled, hstate⟩ :=
      @respondToNonReadRequest_eq W cb (s.withSeq header) header objects
    rw [hstate]
    have hfree₁ : s₁.isTransmitting = false := by
      obtain ⟨world, staticIIN, control, database, mask, effects, rfl, -⟩ := hhandled
      exact hfree
    have hsent : Transmits s₁ (((s₁.sendFrom tx).note (.responded header objects
        { control := .request header.control.SEQ, events := [],
          bytes := tx.getLastResponse })).setSolState .idle) :=
      .begins _ false rfl rfl hfree₁ rfl
    exact (hsent.handled hhandled).after (List.append_nil _).symm rfl ⟨rfl, rfl, rfl⟩

/-- A confirm may send the next fragment of a response, when nothing is being transmitted. -/
theorem transmits_takesConfirm {s s' : OContext W} {header : APDUHeader}
    (hfree : s.isTransmitting = false) (h : TakesConfirm cb s header s') : Transmits s s' := by
  cases h with
  | ignoredSol => exact .refl s
  | ignoredUnsol => exact .refl s
  | last => exact .nothing _ rfl rfl ⟨rfl, rfl, rfl⟩
  | more =>
    obtain ⟨r, hbytes, -, -, hstate⟩ := @continueMultiFragResponse_state W cb
      (s.takeConfirm header.control) (header.control.SEQ + 1)
    rw [hstate]
    have hsent : Transmits (s.takeConfirm header.control)
        (((s.takeConfirm header.control).sentRead r).note (.continued r.fragment)) := by
      refine .begins [.continued r.fragment] false rfl ?_ hfree rfl
      show [LowerLayerCall.beginTransmit false r.fragment.bytes] = _
      rw [hbytes]
      rfl
    exact hsent.after rfl rfl ⟨rfl, rfl, rfl⟩
  | null => exact .of_same rfl ⟨rfl, rfl, rfl⟩
  | events => exact .nothing _ rfl rfl ⟨rfl, rfl, rfl⟩

/-- While something is being transmitted, a fragment is deferred or needs no response. -/
theorem transmits_takesFragment {s s' : OContext W} (h : TakesFragment cb s s') :
    Transmits s s' := by
  cases h with
  | ignored => exact .refl s
  | noAck => exact .of_same rfl ⟨rfl, rfl, rfl⟩
  | deferred header objects =>
    unfold noteConfirm
    split
    · exact .nothing [.confirmReceived header.control] rfl rfl ⟨rfl, rfl, rfl⟩
    · exact .of_same rfl ⟨rfl, rfl, rfl⟩
  | confirm header hfree _ htakes =>
    have hconfirm := transmits_takesConfirm
      (s := s.note (.confirmReceived header.control)) hfree htakes
    exact hconfirm.after rfl rfl ⟨rfl, rfl, rfl⟩
  | request header objects hfree _ htakes => exact transmits_takesRequest hfree htakes

theorem isTransmitting_of_canTransmit {s : OContext W} (h : s.canTransmit = true) :
    s.isTransmitting = false := by
  rw [canTransmit, Bool.and_eq_true, Bool.not_eq_true'] at h
  exact h.2

/-- Clearing the deferred request is no matter of the transmission. -/
theorem Transmits.clearDeferred {s s' : OContext W} (h : Transmits s s') :
    Transmits s s'.clearDeferred := by
  cases h with
  | nothing effects hlog hcalls hkeeps =>
    exact .nothing effects hlog hcalls ⟨hkeeps.isTransmitting, hkeeps.sol, hkeeps.unsol⟩
  | begins effects unsolicited hlog hcalls hfree hbusy =>
    exact .begins effects unsolicited hlog hcalls hfree hbusy

theorem transmits_takesDeferred {s s' : OContext W} (h : TakesDeferred cb s s') :
    Transmits s s' := by
  cases h with
  | nothing => exact .refl s
  | waits => exact .refl s
  | confirm hcan _ _ htakes =>
    exact (transmits_takesConfirm (isTransmitting_of_canTransmit hcan) htakes).clearDeferred
  | request hcan _ _ _ htakes =>
    exact (transmits_takesRequest (isTransmitting_of_canTransmit hcan) htakes).clearDeferred

theorem isTransmitting_of_canSendUnsolicited {s : OContext W} (h : s.canSendUnsolicited = true) :
    s.isTransmitting = false := by
  rw [canSendUnsolicited, Bool.and_eq_true, Bool.and_eq_true] at h
  exact isTransmitting_of_canTransmit h.1.1

theorem log_sendUnsolFrom (s : OContext W) (tx : TxBuffer) : (s.sendUnsolFrom tx).log = s.log := by
  unfold sendUnsolFrom startUnsolicitedConfirmTimer
  rw [startConfirmTimer_eq]
  rfl

theorem transmits_sendUnsolFrom {s : OContext W} (tx : TxBuffer) (control : AppControlField)
    (events : List Nat) (hfree : s.isTransmitting = false) :
    Transmits s ((s.sendUnsolFrom tx).note (.unsolicited
      { control := control, events := events, bytes := tx.getLastResponse })) := by
  refine .begins [.unsolicited
    { control := control, events := events, bytes := tx.getLastResponse }] true ?_ rfl hfree rfl
  rw [note, log_sendUnsolFrom]

theorem transmits_sendsUnsolicited {s s' : OContext W} (h : SendsUnsolicited cb s s') :
    Transmits s s' := by
  cases h with
  | nothing => exact .refl s
  | null tx hcan =>
    exact transmits_sendUnsolFrom tx _ [] (isTransmitting_of_canSendUnsolicited hcan)
  | events writer tx hcan =>
    have hsent := transmits_sendUnsolFrom (s := (s.loadUnsolicited writer).1) tx
      (unsolControl s.unsol.seq.num) (s.loadUnsolicited writer).2.2
      (isTransmitting_of_canSendUnsolicited hcan)
    exact hsent.after (List.append_nil _).symm rfl ⟨rfl, rfl, rfl⟩

/-- A deferred request and an unsolicited response are not both sent. -/
theorem transmits_checkForTaskStart (s : OContext W) : Transmits s (s.checkForTaskStart cb) :=
  (transmits_takesDeferred s.takesDeferred).trans
    (transmits_sendsUnsolicited (sendsUnsolicited (s.checkForDeferredRequest cb)))

theorem transmits_expires {s s' : OContext W} (h : Expires s s') : Transmits s s' := by
  cases h with
  | inactive => exact .refl s
  | solicited => exact .nothing [.abandoned] rfl rfl ⟨rfl, rfl, rfl⟩
  | unsolicited => exact .of_same rfl ⟨rfl, rfl, rfl⟩
  | unexpected => exact .of_same rfl ⟨rfl, rfl, rfl⟩

/-- The events of a point are none of a transmission. -/
theorem keepsTransmission_updatePoint (s : OContext W) (u : DatabaseBuffers.PointUpdate) :
    ∃ effects, (s.updatePoint u).log = s.log ++ effects ∧
      effects.filterMap Effect.lowerLayerCall = [] ∧ KeepsTransmission s (s.updatePoint u) := by
  unfold updatePoint
  split
  next database evt _ _ =>
    refine ⟨_, rfl, ?_, rfl, rfl, rfl⟩
    rw [List.filterMap_map]
    exact List.filterMap_eq_nil_iff.mpr fun _ _ => rfl
  next => exact ⟨[], (List.append_nil _).symm, rfl, rfl, rfl, rfl⟩

theorem transmits_updatePoint (s : OContext W) (u : DatabaseBuffers.PointUpdate) :
    Transmits s (s.updatePoint u) := by
  obtain ⟨effects, hlog, hcalls, hkeeps⟩ := s.keepsTransmission_updatePoint u
  exact .nothing effects hlog hcalls hkeeps

/-! ## The calls of a run -/

variable (cb) in
/-- The calls of an action; a result comes in before anything else is done. -/
def lowerLayerCalls (s : OContext W) (a : Action W) : List LowerLayerCall :=
  (match a with
    | .transmitted => [.sendResult]
    | _ => []) ++
  ((s.perform cb a).log.drop s.log.length).filterMap Effect.lowerLayerCall

end OContext

/-- An outstation, and its calls so far. -/
structure Transmitter (W : Type) where
  outstation : OContext W
  calls : List LowerLayerCall

namespace Transmitter

variable {W : Type} {cb : Callbacks W}

/-- The fragment whose result is awaited. -/
def awaited (t : Transmitter W) : Option Transmission := transmissionObserver.after none t.calls

variable (cb) in
/-- An action is performed, and its calls are added. -/
def perform (t : Transmitter W) (a : OContext.Action W) : Transmitter W where
  outstation := t.outstation.perform cb a
  calls := t.calls ++ t.outstation.lowerLayerCalls cb a

variable (cb) in
/-- The actions of an event are performed. -/
def step (t : Transmitter W) (e : OContext.Event W) : Transmitter W :=
  run (perform cb) t (t.outstation.actions e)

theorem outstation_run_perform (t : Transmitter W) (actions : List (OContext.Action W)) :
    (run (perform cb) t actions).outstation = run (OContext.perform cb) t.outstation actions := by
  induction actions generalizing t with
  | nil => rfl
  | cons a actions ih => exact ih (t.perform cb a)

/-- Keeping the calls does not change what the outstation does. -/
theorem outstation_step (t : Transmitter W) (e : OContext.Event W) :
    (t.step cb e).outstation = t.outstation.step cb e := by
  rw [step, outstation_run_perform, OContext.step_eq]

theorem outstation_run (t : Transmitter W) (events : List (OContext.Event W)) :
    (run (step cb) t events).outstation = run (OContext.step cb) t.outstation events := by
  induction events generalizing t with
  | nil => rfl
  | cons e events ih =>
    rw [run_cons, run_cons, ih, outstation_step]

/-- No transmission began before the result of the one before it, and what is being transmitted is
what the lower layer was given. -/
structure Orderly (t : Transmitter W) : Prop where
  accepts : transmissionObserver.Accepts none t.calls
  busy : t.outstation.isTransmitting = t.awaited.isSome
  unchanged : ∀ unsolicited fragment, t.awaited = some (unsolicited, fragment) →
    (t.outstation.txBuffer unsolicited).getLastResponse = fragment

/-- Calls that are made while the outstation goes from one state to the next. -/
theorem Orderly.calls {t : Transmitter W} {s' : OContext W} (h : t.Orderly)
    (htransmits : OContext.Transmits t.outstation s') :
    Orderly ⟨s', t.calls ++ (s'.log.drop t.outstation.log.length).filterMap
      Effect.lowerLayerCall⟩ := by
  cases htransmits with
  | nothing effects hlog hcalls hkeeps =>
    rw [hlog, List.drop_left, hcalls, List.append_nil]
    exact ⟨h.accepts, hkeeps.isTransmitting.trans h.busy, fun unsolicited fragment hawaited => by
      rw [hkeeps.txBuffer]
      exact h.unchanged unsolicited fragment hawaited⟩
  | begins effects unsolicited hlog hcalls hfree hbusy =>
    rw [hlog, List.drop_left, hcalls]
    have hnone : t.awaited = none := by
      rw [← Option.not_isSome_iff_eq_none, ← h.busy, hfree]
      exact Bool.false_ne_true
    have hafter : transmissionObserver.after none (t.calls ++ [LowerLayerCall.beginTransmit
        unsolicited (s'.txBuffer unsolicited).getLastResponse]) =
        some (unsolicited, (s'.txBuffer unsolicited).getLastResponse) :=
      transmissionObserver.after_concat none t.calls _
    refine ⟨transmissionObserver.accepts_concat h.accepts hnone, ?_, ?_⟩
    · rw [awaited, hafter]
      exact hbusy
    · rintro unsolicited' fragment hawaited
      rw [awaited, hafter] at hawaited
      cases hawaited
      rfl

/-- The result comes in. -/
theorem Orderly.sendResult {t : Transmitter W} (h : t.Orderly) :
    Orderly ⟨{ t.outstation with isTransmitting := false }, t.calls ++ [.sendResult]⟩ := by
  have hafter : transmissionObserver.after none (t.calls ++ [LowerLayerCall.sendResult]) = none :=
    transmissionObserver.after_concat none t.calls _
  refine ⟨transmissionObserver.accepts_concat h.accepts trivial, ?_, ?_⟩
  · rw [awaited, hafter]
    rfl
  · rintro unsolicited fragment hawaited
    rw [awaited, hafter] at hawaited
    cases hawaited

/-- The layer goes down, and the transmission with it. -/
theorem Orderly.onLowerLayerDown {t : Transmitter W} (h : t.Orderly) :
    (t.perform cb .goOffline).Orderly := by
  show Orderly ⟨t.outstation.onLowerLayerDown, t.calls ++ ([] ++
    (t.outstation.onLowerLayerDown.log.drop t.outstation.log.length).filterMap
      Effect.lowerLayerCall)⟩
  unfold OContext.onLowerLayerDown
  split
  · have hcalls : ((t.outstation.log ++ [Effect.layerDown]).drop
        t.outstation.log.length).filterMap Effect.lowerLayerCall = [.layerDown] := by
      rw [List.drop_left]
      rfl
    have hafter : transmissionObserver.after none (t.calls ++ [LowerLayerCall.layerDown]) = none :=
      transmissionObserver.after_concat none t.calls _
    rw [List.nil_append, OContext.note, hcalls]
    refine ⟨transmissionObserver.accepts_concat h.accepts trivial, ?_, ?_⟩
    · rw [awaited, hafter]
      rfl
    · rintro unsolicited fragment hawaited
      rw [awaited, hafter] at hawaited
      cases hawaited
  · rw [List.drop_length, List.filterMap_nil, List.append_nil, List.append_nil]
    exact h

/-- Every action keeps the order. -/
theorem Orderly.perform {t : Transmitter W} (h : t.Orderly) (a : OContext.Action W) :
    (t.perform cb a).Orderly := by
  cases a with
  | goOnline => exact h.calls (.of_same rfl ⟨rfl, rfl, rfl⟩)
  | goOffline => exact h.onLowerLayerDown
  | transmitted =>
    have hdeferred := OContext.transmits_takesDeferred
      (@OContext.takesDeferred W cb { t.outstation with isTransmitting := false })
    have hcalls := h.sendResult.calls hdeferred
    rw [List.append_assoc] at hcalls
    exact hcalls
  | parse fragment =>
    exact h.calls (OContext.transmits_takesFragment (t.outstation.takesFragment fragment))
  | expire => exact h.calls (OContext.transmits_expires t.outstation.expires)
  | updatePoint u => exact h.calls (t.outstation.transmits_updatePoint u)
  | checkForDeferredRequest =>
    exact h.calls (OContext.transmits_takesDeferred t.outstation.takesDeferred)
  | checkForUnsolicited =>
    exact h.calls (OContext.transmits_sendsUnsolicited t.outstation.sendsUnsolicited)
  | setRestartIIN => exact h.calls (.of_same rfl ⟨rfl, rfl, rfl⟩)
  | elapse milliseconds => exact h.calls (.of_same rfl ⟨rfl, rfl, rfl⟩)
  | surroundings world => exact h.calls (.of_same rfl ⟨rfl, rfl, rfl⟩)

/-- An outstation that has made no calls. -/
def initial (world : W) (now : Int) (config : EventBufferConfig) (database : DatabaseBuffers)
    (params : OutstationParams) : Transmitter W where
  outstation := .initial world now config database params
  calls := []

/-- In every run of an outstation, and between any two actions of every event of it, no transmission
has begun while the result of another one was awaited, and the buffer of the fragment whose result
is awaited still holds that fragment. -/
theorem transmissions_never_overlap (world : W) (now : Int) (config : EventBufferConfig)
    (database : DatabaseBuffers) (params : OutstationParams) (events : List (OContext.Event W)) :
    (run (step cb) (initial world now config database params) events).outstation =
        run (OContext.step cb) (.initial world now config database params) events ∧
      Throughout (step cb) (fun t e => Always (perform cb) Orderly t (t.outstation.actions e))
        (initial world now config database params) events := by
  have hperform (t : Transmitter W) (a : OContext.Action W) (h : t.Orderly) :
      (t.perform cb a).Orderly := h.perform a
  have hinitial : (initial world now config database params).Orderly :=
    ⟨trivial, rfl, fun _ _ hawaited => by cases hawaited⟩
  have halways : Always (step cb) Orderly (initial world now config database params) events :=
    always_keeps (fun t e h => run_keeps hperform _ h) events hinitial
  exact ⟨outstation_run _ events, halways.throughout fun t e h _ => always_keeps hperform _ h⟩

end Transmitter
end Outstation
end Dnp3
