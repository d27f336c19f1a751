import Dnp3.Outstation.OutstationCases

/-!
# Repeated requests

A master that misses a response sends its request again.  The outstation then sends the response
again and does not execute the request a second time.  It does not keep the request: it compares
the sequence number with that of the last new request, the header with that of the last request it
has processed, and the length and a sixteen-bit digest of the objects.  So different objects with
one digest are taken for a repetition, and a request that is sent again after another new request
was deferred is not.

`Remembers` is the invariant that makes this precise: what the history holds is the last request
that was processed, and the response in the buffer is the answer to it.  It holds in every state
that an outstation reaches, also in the middle of an event when a deferred request is taken up
(`Reached`), since every action keeps it.  `LooksRepeated` is what the outstation compares, and
`repeats_recognised` says that a request is answered again without being executed exactly when it
looks like a repetition.
-/

namespace Dnp3
namespace Outstation

open App Library Link

/-- A request that was processed, and the fragment that answers it. -/
structure Processed where
  header : APDUHeader
  objects : List UInt8
  fragment : Fragment
  deriving DecidableEq, Repr

/-- The last request processed, after one more effect; nothing is remembered when the layer goes
down. -/
def Processed.after (last : Option Processed) : Effect → Option Processed
  | .responded header objects fragment => some ⟨header, objects, fragment⟩
  | .layerDown => none
  | _ => last

/-- The last request that was processed. -/
def lastProcessed (log : List Effect) : Option Processed := log.foldl Processed.after none

theorem lastProcessed_note (log : List Effect) (e : Effect) :
    lastProcessed (log ++ [e]) = Processed.after (lastProcessed log) e := by
  rw [lastProcessed, List.foldl_append]
  rfl

/-- The effects of handlers do not process a request by themselves. -/
theorem lastProcessed_append {log effects : List Effect}
    (h : ∀ e ∈ effects, Processed.after (lastProcessed log) e = lastProcessed log) :
    lastProcessed (log ++ effects) = lastProcessed log := by
  induction effects generalizing log with
  | nil => rw [List.append_nil]
  | cons e effects ih =>
    have he := h e List.mem_cons_self
    rw [List.append_cons, ih]
    · rw [lastProcessed_note, he]
    · intro e' he'
      rw [lastProcessed_note, he]
      exact h e' (List.mem_cons_of_mem e he')

namespace OContext

variable {W : Type} {cb : Callbacks W}

/-- The states of an outstation between its actions, and when it takes up a deferred request. -/
inductive Reached (cb : Callbacks W) (s₀ : OContext W) : OContext W → Prop where
  | initial : Reached cb s₀ s₀
  | perform {s : OContext W} (h : Reached cb s₀ s) (a : Action W) : Reached cb s₀ (s.perform cb a)
  | transmitted {s : OContext W} (h : Reached cb s₀ s) :
      Reached cb s₀ { s with isTransmitting := false }

/-- The states after events are reached. -/
theorem reached_run (s₀ : OContext W) (events : List (Event W)) :
    Reached cb s₀ (run (step cb) s₀ events) :=
  run_step_keeps (fun _ a h => h.perform a) events .initial

theorem Reached.keeps {I : OContext W → Prop} (hperform : ∀ s a, I s → I (s.perform cb a))
    (htransmitted : ∀ s, I s → I { s with isTransmitting := false }) {s₀ s : OContext W}
    (h : Reached cb s₀ s) (h₀ : I s₀) : I s := by
  induction h with
  | initial => exact h₀
  | perform h a ih => exact hperform _ a ih
  | transmitted h ih => exact htransmitted _ ih

/-! ## What the history is -/

/-- The history is that of the last request processed, and the response to it can be sent again;
only a response to a READ waits for a confirm. -/
structure Remembers (s : OContext W) : Prop where
  history : match lastProcessed s.log with
    | none => s.history.hasLast = false
    | some p =>
      s.history = { hasLast := true, lastHeader := p.header, lastDigest := CRC.calcCrc p.objects,
                    lastObjectsLength := p.objects.length } ∧
      (p.header.function ≠ .read → s.sol.tx.getLastResponse = p.fragment.bytes)
  waiting : s.sol.pState = .confirmWait →
    ∃ p, lastProcessed s.log = some p ∧ p.header.function = .read

namespace Remembers

variable {s s' : OContext W}

/-- What is remembered depends on four parts of the state. -/
theorem congr (h : Remembers s) (hlog : lastProcessed s'.log = lastProcessed s.log)
    (hhistory : s'.history = s.history) (htx : s'.sol.tx = s.sol.tx)
    (hstate : s'.sol.pState = .confirmWait → s.sol.pState = .confirmWait) : Remembers s' := by
  constructor
  · rw [hlog, hhistory, htx]
    exact h.history
  · rw [hlog]
    exact fun hs' => h.waiting (hstate hs')

theorem initial (world : W) (now : Int) (events : EventBufferConfig) (database : DatabaseBuffers)
    (params : OutstationParams) :
    Remembers (OContext.initial world now events database params) :=
  ⟨rfl, fun h => by cases h⟩

/-- A request was processed and is answered. -/
theorem responded {header : APDUHeader} {objects : List UInt8} {fragment : Fragment}
    {log : List Effect} (hlog : s.log = log ++ [Effect.responded header objects fragment])
    (hhistory : s.history =
      { hasLast := true, lastHeader := header, lastDigest := CRC.calcCrc objects,
        lastObjectsLength := objects.length })
    (hlast : header.function ≠ .read → s.sol.tx.getLastResponse = fragment.bytes)
    (hwaiting : s.sol.pState = .confirmWait → header.function = .read) : Remembers s := by
  have hprocessed : lastProcessed s.log = some ⟨header, objects, fragment⟩ := by
    rw [hlog]
    exact lastProcessed_note _ _
  constructor
  · rw [hprocessed]
    exact ⟨hhistory, hlast⟩
  · rw [hprocessed]
    exact fun h => ⟨_, rfl, hwaiting h⟩

/-- A request that is executed is remembered with its answer. -/
theorem takesRequest {header : APDUHeader} {objects : List UInt8} (h : Remembers s)
    (ht : TakesRequest cb s header objects s') : Remembers s' := by
  cases ht with
  | unsolicited huns => exact h
  | repeatedRead huns hrepeat hread => exact h
  | repeated huns hrepeat hread hsol =>
    exact h.congr (lastProcessed_note _ _) rfl rfl id
  | repeatedWaiting huns hrepeat hread hsol => exact h.congr rfl rfl rfl id
  | abandons huns hnew hsol =>
    refine h.congr (lastProcessed_note _ _) rfl rfl fun hs => ?_
    cases hs
  | defersRead huns hnew hread hsol hunsol => exact h.congr rfl rfl rfl id
  | read huns hnew hread hsol hunsol =>
    obtain ⟨r, -, -, -, heq⟩ := @respondToReadRequest_state W cb (s.withSeq header) header objects
    rw [heq]
    exact responded rfl rfl (fun hne => absurd hread hne) fun _ => hread
  | nonRead huns hnew hread hsol =>
    obtain ⟨s₁, tx, hs₁, heq⟩ := @respondToNonReadRequest_eq W cb (s.withSeq header) header objects
    rw [heq]
    obtain ⟨world, staticIIN, control, database, mask, effects, rfl, -, -, heffects⟩ := hs₁
    refine responded rfl rfl (fun _ => rfl) fun hwait => ?_
    cases hwait

/-- A confirm continues a response, or changes nothing of the history. -/
theorem takesConfirm {header : APDUHeader} (h : Remembers s)
    (ht : TakesConfirm cb s header s') : Remembers s' := by
  cases ht with
  | ignoredSol huns hsol => exact h
  | ignoredUnsol huns hunsol => exact h
  | last huns hsol hseq hselection =>
    refine h.congr (lastProcessed_note _ _) rfl rfl fun hs => ?_
    cases hs
  | more huns hsol hseq hselection =>
    obtain ⟨r, -, -, -, heq⟩ := @continueMultiFragResponse_state W cb (s.takeConfirm header.control)
      (header.control.SEQ + 1)
    rw [heq]
    have hlog : lastProcessed (((s.takeConfirm header.control).sentRead r).note
        (.continued r.fragment)).log = lastProcessed s.log :=
      (lastProcessed_note _ _).trans (lastProcessed_note _ _)
    -- the response that goes on is one to a READ
    obtain ⟨p, hp, hread⟩ := h.waiting hsol
    have hhistory := h.history
    rw [hp] at hhistory
    constructor
    · rw [hlog, hp]
      exact ⟨hhistory.1, fun hne => absurd hread hne⟩
    · rw [hlog]
      exact fun _ => ⟨p, hp, hread⟩
  | null huns hunsol hseq hnull => exact h.congr rfl rfl rfl id
  | events huns hunsol hseq hnull => exact h.congr (lastProcessed_note _ _) rfl rfl id

theorem takesFragment (h : Remembers s) (ht : TakesFragment cb s s') : Remembers s' := by
  cases ht with
  | ignored => exact h
  | noAck world => exact h.congr rfl rfl rfl id
  | deferred header objects htx =>
    unfold noteConfirm
    split
    · exact h.congr (lastProcessed_note _ _) rfl rfl id
    · exact h.congr rfl rfl rfl id
  | confirm header htx hfunction hc =>
    have hnoted : Remembers (s.note (.confirmReceived header.control)) :=
      h.congr (lastProcessed_note _ _) rfl rfl id
    exact hnoted.takesConfirm hc
  | request header objects htx hfunction hr => exact h.takesRequest hr

theorem takesDeferred (h : Remembers s) (ht : TakesDeferred cb s s') : Remembers s' := by
  cases ht with
  | nothing _ => exact h
  | waits hset hread hunsol => exact h
  | confirm hcan hset hfunction hc => exact (h.takesConfirm hc).congr rfl rfl rfl id
  | request hcan hset hfunction hread hr => exact (h.takesRequest hr).congr rfl rfl rfl id

theorem expires (h : Remembers s) (he : Expires s s') : Remembers s' := by
  cases he with
  | inactive htimer => exact h
  | solicited timeout htimer hsol =>
    refine h.congr (lastProcessed_note _ _) rfl rfl fun hs => ?_
    cases hs
  | unsolicited timeout htimer hunsol => exact h.congr rfl rfl rfl id
  | unexpected timer htimer hsol hunsol => exact h.congr rfl rfl rfl id

theorem startConfirmTimer (h : Remembers s) (timeout : Int) (action : ConfirmAction) :
    Remembers (s.startConfirmTimer timeout action) := by
  unfold OContext.startConfirmTimer
  split
  · exact h
  · exact h.congr rfl rfl rfl id

theorem sendUnsolFrom (h : Remembers s) (tx : TxBuffer) (fragment : Fragment) :
    Remembers ((s.sendUnsolFrom tx).note (.unsolicited fragment)) := by
  have hoverflow : Remembers s.checkOverflow := h.congr rfl rfl rfl id
  have hstarted := hoverflow.startConfirmTimer s.checkOverflow.params.unsolConfirmTimeout
    .unsolicited
  exact hstarted.congr (lastProcessed_note _ _) rfl rfl id

theorem sendsUnsolicited (h : Remembers s) (hs : SendsUnsolicited cb s s') : Remembers s' := by
  cases hs with
  | nothing => exact h
  | null tx hcan hnull => exact h.sendUnsolFrom tx _
  | events writer tx hcan hnull hevents =>
    have hloaded : Remembers (s.loadUnsolicited writer).1 := h.congr rfl rfl rfl id
    exact hloaded.sendUnsolFrom tx _

theorem updatePoint (h : Remembers s) (u : DatabaseBuffers.PointUpdate) :
    Remembers (s.updatePoint u) := by
  unfold OContext.updatePoint
  split
  · refine h.congr (lastProcessed_append fun e he => ?_) rfl rfl id
    obtain ⟨id, -, rfl⟩ := List.mem_map.mp he
    rfl
  · exact h.congr rfl rfl rfl id

theorem onLowerLayerDown (h : Remembers s) : Remembers s.onLowerLayerDown := by
  unfold OContext.onLowerLayerDown
  split
  · have hlog : lastProcessed (s.log ++ [Effect.layerDown]) = none := lastProcessed_note _ _
    constructor
    · show match lastProcessed (s.log ++ [Effect.layerDown]) with
        | none => _
        | some p => _
      rw [hlog]
      rfl
    · intro hs
      cases hs
  · exact h

/-- Every action keeps it. -/
theorem perform (h : Remembers s) (a : Action W) : Remembers (s.perform cb a) := by
  cases a with
  | goOnline => exact h.congr rfl rfl rfl id
  | goOffline => exact h.onLowerLayerDown
  | transmitted =>
    have htransmitted : Remembers { s with isTransmitting := false } := h.congr rfl rfl rfl id
    exact htransmitted.takesDeferred (OContext.takesDeferred _)
  | parse fragment => exact h.takesFragment (s.takesFragment fragment)
  | expire => exact h.expires s.expires
  | updatePoint u => exact h.updatePoint u
  | checkForDeferredRequest => exact h.takesDeferred s.takesDeferred
  | checkForUnsolicited => exact h.sendsUnsolicited s.sendsUnsolicited
  | setRestartIIN => exact h.congr rfl rfl rfl id
  | elapse milliseconds => exact h.congr rfl rfl rfl id
  | surroundings world => exact h.congr rfl rfl rfl id

theorem reached {s₀ : OContext W} (h₀ : Remembers s₀) (h : Reached cb s₀ s) : Remembers s :=
  h.keeps (fun _ a hs => hs.perform a) (fun _ hs => hs.congr rfl rfl rfl id) h₀

end Remembers

/-! ## Recognition -/

/-- What the outstation compares: the sequence number of the last new request, the header, and the
length and the digest of the objects. -/
structure LooksRepeated (s : OContext W) (p : Processed) (header : APDUHeader)
    (objects : List UInt8) : Prop where
  seq : s.sol.seq.num = header.control.SEQ
  header : p.header = header
  length : p.objects.length = objects.length
  digest : CRC.calcCrc p.objects = CRC.calcCrc objects

/-- A request is taken for a repetition when it looks like the last one processed. -/
theorem Remembers.isRepeat_iff {s : OContext W} (h : Remembers s) (header : APDUHeader)
    (objects : List UInt8) :
    s.isRepeat header objects = true ↔
      ∃ p, lastProcessed s.log = some p ∧ s.LooksRepeated p header objects := by
  have hhistory := h.history
  unfold isRepeat RequestHistory.fullyEqualsLastRequest RequestHistory.equalsLastObjects
  cases hlast : lastProcessed s.log with
  | none =>
    rw [hlast] at hhistory
    rw [hhistory]
    constructor
    · intro hfalse
      cases hfalse
    · rintro ⟨p, hp, -⟩
      cases hp
  | some p =>
    rw [hlast] at hhistory
    rw [hhistory.1]
    simp only [Bool.true_and, Bool.and_eq_true, beq_iff_eq]
    constructor
    · rintro ⟨hseq, hheader, hlength, hdigest⟩
      exact ⟨p, rfl, hseq, hheader, hlength, hdigest⟩
    · rintro ⟨p', hp', hlooks⟩
      cases hp'
      exact ⟨hlooks.seq, hlooks.header, hlooks.length, hlooks.digest⟩

/-- The request is not executed: the last response is transmitted again, and that is all. -/
def AnswersAgain (cb : Callbacks W) (s : OContext W) (p : Processed) (header : APDUHeader)
    (objects : List UInt8) : Prop :=
  s.processRequest cb header objects = s.beginTx.note (.repeated header objects p.fragment.bytes)

/-- The request is handled, and the response built for it is transmitted. -/
def AnswersAfresh (cb : Callbacks W) (s : OContext W) (header : APDUHeader)
    (objects : List UInt8) : Prop :=
  s.processRequest cb header objects =
      ((s.withSeq header).respondToNonReadRequest cb header objects).1 ∧
    ∃ effects fragment,
      (s.processRequest cb header objects).log =
        s.log ++ effects ++ [.responded header objects fragment] ∧
      (s.processRequest cb header objects).isTransmitting = true ∧
      (s.processRequest cb header objects).sol.tx.getLastResponse = fragment.bytes

/-- A request that is taken up in the idle state is answered again exactly when it looks like the
last one, and is executed otherwise. -/
theorem repeats_recognised (world : W) (now : Int) (config : EventBufferConfig)
    (database : DatabaseBuffers) (params : OutstationParams) {s : OContext W}
    (hs : Reached cb (initial world now config database params) s) (hsol : s.sol.pState = .idle)
    {header : APDUHeader} (hread : header.function ≠ .read) (huns : header.control.UNS = false)
    (objects : List UInt8) :
    (∀ p, lastProcessed s.log = some p → s.LooksRepeated p header objects →
      AnswersAgain cb s p header objects) ∧
    ((¬ ∃ p, lastProcessed s.log = some p ∧ s.LooksRepeated p header objects) →
      AnswersAfresh cb s header objects) := by
  have hremembers := (Remembers.initial world now config database params).reached hs
  constructor
  · intro p hp hlooks
    have hrepeat := (hremembers.isRepeat_iff header objects).mpr ⟨p, hp, hlooks⟩
    have hhistory := hremembers.history
    rw [hp] at hhistory
    have hbytes := hhistory.2 (by rw [hlooks.header]; exact hread)
    have htaken := @takesRequest W cb s header objects
    rw [AnswersAgain, ← hbytes]
    generalize s.processRequest cb header objects = s' at htaken ⊢
    cases htaken with
    | unsolicited huns' => rw [huns] at huns'; cases huns'
    | repeatedRead _ _ hread' => exact absurd hread' hread
    | repeated _ _ _ _ => rfl
    | repeatedWaiting _ _ _ hsol' => rw [hsol] at hsol'; cases hsol'
    | abandons _ hnew _ => rw [hrepeat] at hnew; cases hnew
    | defersRead _ hnew _ _ _ => rw [hrepeat] at hnew; cases hnew
    | read _ hnew _ _ _ => rw [hrepeat] at hnew; cases hnew
    | nonRead _ hnew _ _ => rw [hrepeat] at hnew; cases hnew
  · intro hlooks
    have hnew : s.isRepeat header objects ≠ true := fun h =>
      hlooks ((hremembers.isRepeat_iff header objects).mp h)
    have htaken := @takesRequest W cb s header objects
    rw [AnswersAfresh]
    generalize s.processRequest cb header objects = s' at htaken ⊢
    cases htaken with
    | unsolicited huns' => rw [huns] at huns'; cases huns'
    | repeatedRead _ hrepeat _ => exact absurd hrepeat hnew
    | repeated _ hrepeat _ _ => exact absurd hrepeat hnew
    | repeatedWaiting _ _ _ hsol' => rw [hsol] at hsol'; cases hsol'
    | abandons _ _ hsol' => rw [hsol] at hsol'; cases hsol'
    | defersRead _ _ hread' _ _ => exact absurd hread' hread
    | read _ _ hread' _ _ => exact absurd hread' hread
    | nonRead _ _ _ _ =>
      obtain ⟨s₁, tx, hs₁, heq⟩ :=
        @respondToNonReadRequest_eq W cb (s.withSeq header) header objects
      obtain ⟨world, staticIIN, control, database, mask, effects, rfl, -, -, heffects⟩ := hs₁
      rw [heq]
      exact ⟨setSolState_self hsol, effects, _, rfl, rfl, rfl⟩

/-! ## A small outstation -/

/-- User code that counts the commands that are operated. -/
def countingCallbacks : Callbacks Nat where
  start w := w
  stop w := w
  select w _ _ := (w, .success)
  operate w _ _ := (w + 1, .success)
  supportsWriteAbsoluteTime _ := false
  writeAbsoluteTime w _ := (w, false)
  supportsWriteTimeAndInterval _ := false
  writeTimeAndInterval w _ := (w, false)
  supportsAssignClass _ := false
  getApplicationIIN _ :=
    { needTime := false, localControl := false, deviceTrouble := false, configCorrupt := false }
  coldRestartSupport _ := .unsupported
  warmRestartSupport _ := .unsupported
  coldRestart w := (w, 65535)
  warmRestart w := (w, 65535)

/-- Small fragments, and all classes of events unsolicited. -/
def smallParams : OutstationParams where
  maxControlsPerRequest := 16
  selectTimeout := 10000
  solConfirmTimeout := 5000
  unsolConfirmTimeout := 5000
  maxTxFragSize := 64
  maxRxFragSize := 64
  allowUnsolicited := true
  unsolClassMask := ⟨ClassField.EVENT_CLASSES⟩

/-- Two counters and room for four events of each type. -/
def small : OContext Nat := initial 0 0 (.allTypes 4) (.ofType .counter 2) smallParams

/-- An outstation of the example after some events. -/
def after (events : List (Event Nat)) : OContext Nat := run (step countingCallbacks) small events

/-- A control relay output block for the point 3, with an on-time. -/
def pulse (onTime : List UInt8) : List UInt8 :=
  [0x0C, 0x01, 0x17, 0x01, 0x03, 0x03, 0x01] ++ onTime ++ [0x64, 0, 0, 0, 0]

/-- The header of a command that is operated at once. -/
def directOperate (seq : AppSeqNum) : APDUHeader :=
  { function := .directOperate, control := .request seq }

/-- A pulse was operated and answered, while the first unsolicited response is not confirmed. -/
def pulsed : List (Event Nat) :=
  [.lowerLayerUp, .sendResult true, .receive ([0xC3, 0x05] ++ pulse [100, 0, 0, 0]),
    .sendResult true]

/-- The pulse, and what answers it. -/
def pulseProcessed : Processed where
  header := directOperate 3
  objects := pulse [100, 0, 0, 0]
  fragment := { control := .request 3, events := []
                bytes := [0xC3, 0x81, 0x80, 0] ++ pulse [100, 0, 0, 0] }

theorem lastProcessed_pulsed : lastProcessed (after pulsed).log = some pulseProcessed := by
  decide +kernel

theorem idle_pulsed : (after pulsed).sol.pState = .idle := by decide +kernel

/-- The request is sent once more. -/
theorem repeats_recognised_pulse :
    AnswersAgain countingCallbacks (after pulsed) pulseProcessed (directOperate 3)
      (pulse [100, 0, 0, 0]) := by
  have hseq : (after pulsed).sol.seq.num = 3 := by decide +kernel
  have hlooks : (after pulsed).LooksRepeated pulseProcessed (directOperate 3)
      (pulse [100, 0, 0, 0]) := ⟨hseq, rfl, rfl, rfl⟩
  have hrecognised := @repeats_recognised Nat countingCallbacks 0 0 (.allTypes 4)
    (.ofType .counter 2) smallParams _ (reached_run small pulsed) idle_pulsed
    (directOperate 3) (by decide) (by decide) (pulse [100, 0, 0, 0])
  exact hrecognised.1 pulseProcessed lastProcessed_pulsed hlooks

/-- A pulse with another on-time of the same digest is not executed, and after a READ that had to
wait the same pulse is executed again. -/
theorem not_repeats_exact :
    (¬ ∀ s, Reached countingCallbacks small s → s.sol.pState = .idle →
      ∀ header objects, header.function ≠ .read → header.control.UNS = false →
        ∀ p, lastProcessed s.log = some p →
          (s.processRequest countingCallbacks header objects).log =
            s.log ++ [.repeated header objects p.fragment.bytes] →
          p.header = header ∧ p.objects = objects) ∧
    ¬ ∀ s, Reached countingCallbacks small s → s.sol.pState = .idle →
      ∀ header objects, header.function ≠ .read → header.control.UNS = false →
        ∀ p, lastProcessed s.log = some p → p.header = header ∧ p.objects = objects →
          (s.processRequest countingCallbacks header objects).world = s.world := by
  constructor
  · intro h
    have hlog : ((after pulsed).processRequest countingCallbacks (directOperate 3)
        (pulse [29, 77, 1, 0])).log = (after pulsed).log ++
          [Effect.repeated (directOperate 3) (pulse [29, 77, 1, 0])
            pulseProcessed.fragment.bytes] := by
      decide +kernel
    have hsame := h (after pulsed) (reached_run small pulsed) idle_pulsed (directOperate 3)
      (pulse [29, 77, 1, 0]) (by decide) (by decide) pulseProcessed lastProcessed_pulsed hlog
    exact absurd hsame.2 (by decide)
  · intro h
    let events := pulsed ++ [Event.receive [0xC4, 0x01, 0x3C, 0x01, 0x06]]
    have hlast : lastProcessed (after events).log = some pulseProcessed := by decide +kernel
    have hidle : (after events).sol.pState = .idle := by decide +kernel
    have hworld := h (after events) (reached_run small events) hidle (directOperate 3)
      (pulse [100, 0, 0, 0]) (by decide) (by decide) pulseProcessed hlast ⟨rfl, rfl⟩
    revert hworld
    decide +kernel

end OContext
end Outstation
end Dnp3
