import Dnp3.Outstation.ReadResponses

/-!
# Responses to READs over whole runs

What an observer knows of the response that is under way can be computed from the state of the
outstation: `readingOf`.  Every action keeps the two in agreement when it does not disturb the
response; so in every run without disturbances the fragments and the confirms come in turn, and a
fragment that is due is sent as soon as the transmission before it is over.

`readingOf` computes from the state what an observer of the exchanged fragments has to know: whether
a response is under way, whether its last fragment has been sent, and whether the confirm of a
fragment has come.  `InTurn` says that the observer knows just this, and `Answering` is the
invariant between two actions.  The lemmas go through the cases of `Outstation.OutstationCases`, one
for each kind of action, and `reads_answered` puts them together: the fragments of a response come
in turn, each behind the confirm of the one before, in every run in which nothing disturbs a
response that is under way.
-/

namespace Dnp3
namespace Outstation

open App Library

namespace OContext

variable {W : Type} {cb : Callbacks W}

/-! ## What is selected -/

theorem isOverflown_hasAnySelection (b : EventBuffer) :
    b.isOverflown.1.hasAnySelection = b.hasAnySelection := by
  unfold EventBuffer.isOverflown
  dsimp only
  split <;> rfl

/-- Clearing what is written leaves what is still to be written. -/
theorem clearWritten_hasAnySelection {b : EventBuffer} (h : b.Exact) :
    b.clearWritten.hasAnySelection = b.hasAnySelection := by
  rw [Bool.eq_iff_iff, h.clearWritten.hasAnySelection_iff, h.hasAnySelection_iff]
  constructor
  · rintro ⟨r, hr, hwritable⟩
    exact ⟨r, (EventBuffer.mem_clearWritten.mp hr).1, hwritable⟩
  · rintro ⟨r, hr, hwritable⟩
    refine ⟨r, EventBuffer.mem_clearWritten.mpr ⟨hr, ?_⟩, hwritable⟩
    rw [EventWriter.isWritable, Bool.and_eq_true, Bool.not_eq_true'] at hwritable
    exact hwritable.2

/-- An event that is discarded for another one may have been the last one that was selected. -/
theorem updateAny_hasAnySelection {b : EventBuffer} (h : b.Exact) (evt : EventUpdate)
    (hkept : ∃ r ∈ b.records, EventWriter.isWritable r = true ∧ b.discardedFor evt ≠ some r) :
    (b.updateAny evt).hasAnySelection = true := by
  rw [(h.updateAny evt).hasAnySelection_iff]
  obtain ⟨r, hr, hwritable, hother⟩ := hkept
  exact ⟨r, EventBuffer.mem_updateAny_of_mem hr hother, hwritable⟩

theorem unselect_hasAnySelection {b : EventBuffer} (h : b.Exact) :
    b.unselect.hasAnySelection = false := by
  rw [← Bool.not_eq_true, h.unselect.hasAnySelection_iff]
  rintro ⟨r, hr, hwritable⟩
  have hrecords : b.unselect.records = b.records.map SOERecord.reset :=
    unselectRecords_records h.selectionCounted h.written_selected
  rw [hrecords, List.mem_map] at hr
  obtain ⟨r', -, rfl⟩ := hr
  cases hwritable

/-- An event is not selected by being recorded. -/
theorem updateAny_hasAnySelection_of_none {b : EventBuffer} (h : b.Exact) (evt : EventUpdate)
    (hnone : b.hasAnySelection = false) : (b.updateAny evt).hasAnySelection = false := by
  rw [← Bool.not_eq_true, (h.updateAny evt).hasAnySelection_iff]
  rintro ⟨r, hr, hwritable⟩
  rw [← Bool.not_eq_true, h.hasAnySelection_iff] at hnone
  rcases EventBuffer.mem_updateAny hr with hmem | rfl
  · exact hnone ⟨r, hmem, hwritable⟩
  · rw [EventWriter.isWritable, SOERecord.selected_ofUpdate] at hwritable
    cases hwritable

namespace SelectionsExact

variable {s : OContext W}

/-- Nothing but the counters and the ranges matters. -/
theorem congr {s' : OContext W} (h : s.SelectionsExact) (hevents : s'.eventBuffer = s.eventBuffer)
    (hstatic : s'.database = s.database) : s'.SelectionsExact := by
  constructor
  · rw [hevents]
    exact h.events
  · rw [hstatic]
    exact h.static

theorem unselect (h : s.SelectionsExact) :
    ReadHandler.Exact ⟨s.database.unselect, s.eventBuffer.unselect⟩ := by
  have hstatic : ∀ t, s.database.unselect.Covered t :=
    fun t => (DatabaseBuffers.unselect_spec h.static).1.covered t
  have hevents := h.events.unselect
  generalize s.database.unselect = database at hstatic ⊢
  exact ⟨hevents, hstatic⟩

theorem takeConfirm (h : s.SelectionsExact) (control : AppControlField) :
    (s.takeConfirm control).SelectionsExact :=
  ⟨h.events.clearWritten, h.static⟩

theorem hasSelection_takeConfirm (h : s.SelectionsExact) (control : AppControlField) :
    (s.takeConfirm control).hasSelection = s.hasSelection := by
  show (s.database.hasAnySelection || s.eventBuffer.clearWritten.hasAnySelection) = _
  rw [clearWritten_hasAnySelection h.events]
  rfl

/-- A READ whose headers select different records. -/
theorem selectHeaders (h : s.SelectionsExact) {objects : List UInt8}
    (hfresh : s.readSelectsFresh objects) :
    (s.resetRead.selectHeaders
      (APDUParser.parse objects false ReadHandler.isAllowed).2).1.SelectionsExact := by
  have hunselected := h.unselect
  unfold readSelectsFresh at hfresh
  unfold OContext.selectHeaders OContext.resetRead
  generalize (⟨s.database.unselect, s.eventBuffer.unselect⟩ : ReadHandler) = handler
    at hunselected hfresh ⊢
  have hrun := run_invariant (I := ReadHandler.Exact) (P := ReadHandler.SelectsFresh)
    (fun _ header hh hok => hh.onHeader header hok) hunselected hfresh
  rw [← ReadHandler.state_onHeaders] at hrun
  exact ⟨hrun.events, hrun.static⟩

/-- All events of the classes that are reported are selected anew. -/
theorem loadUnsolicited (h : s.SelectionsExact) (writer : HeaderWriter) :
    (s.loadUnsolicited writer).1.SelectionsExact := by
  have hunselected : ∀ r ∈ s.eventBuffer.unselect.records, r.selected = false := by
    intro r hr
    have hrecords : s.eventBuffer.unselect.records = s.eventBuffer.records.map SOERecord.reset :=
      unselectRecords_records h.events.selectionCounted h.events.written_selected
    rw [hrecords, List.mem_map] at hr
    obtain ⟨r', -, rfl⟩ := hr
    rfl
  refine ⟨(h.events.unselect.selectEvents (.byClass s.params.unsolClassMask) _ ?_).load writer,
    h.static⟩
  exact fun r hr => hunselected r (List.mem_of_mem_filter (List.mem_of_mem_take hr))

end SelectionsExact

/-! ## The fragments of a READ -/

/-- What is sent of the response to a READ says whether there is more. -/
structure SentRead.Says (r : SentRead) (first : Bool) : Prop where
  events : r.eventBuffer.Exact
  static : ∀ t, r.database.Covered t
  fir : r.fragment.control.FIR = first
  fin : r.fragment.control.CON = true →
    r.fragment.control.FIN = !(r.database.hasAnySelection || r.eventBuffer.hasAnySelection)
  con : r.fragment.control.FIN = false → r.fragment.control.CON = true
  con_events : r.fragment.events ≠ [] → r.fragment.control.CON = true

theorem FragmentSays.ofLoad {s s₀ loaded : OContext W} {control : AppControlField}
    {events : List Nat} (h : FragmentSays s loaded control events) (seq : AppSeqNum)
    (tx : TxBuffer) :
    SentRead.Says (.ofLoad s₀ loaded { control with SEQ := seq } events tx)
      (s.fragmentCount == 0) := by
  refine ⟨h.exact.events.isOverflown, h.exact.static, h.fir, fun _ => ?_, h.con, h.con_events⟩
  show control.FIN = !(loaded.database.hasAnySelection ||
    loaded.eventBuffer.isOverflown.1.hasAnySelection)
  rw [isOverflown_hasAnySelection]
  exact h.fin

/-- A READ is answered by a first fragment. -/
theorem handleRead_tells {s s₀ : OContext W} (h : s.SelectionsExact) {objects : List UInt8}
    (hfresh : s.readSelectsFresh objects) (writer : HeaderWriter) (seq : AppSeqNum)
    (tx : TxBuffer) :
    SentRead.Says (.ofLoad s₀ (s.handleRead objects writer).1
      { (s.handleRead objects writer).2.2.2.1 with SEQ := seq }
      (s.handleRead objects writer).2.2.2.2 tx) true := by
  have hselected := h.selectHeaders hfresh
  have hcount : (s.resetRead.selectHeaders
      (APDUParser.parse objects false ReadHandler.isAllowed).2).1.fragmentCount = 0 := rfl
  unfold handleRead
  dsimp only
  generalize s.resetRead.selectHeaders (APDUParser.parse objects false ReadHandler.isAllowed).2 =
    selected at hselected hcount ⊢
  obtain ⟨s₁, errors⟩ := selected
  dsimp only at hselected hcount ⊢
  split
  · have htells := loadResponse_tells hselected writer
    have hfirst : (s₁.fragmentCount == 0) = true := by rw [hcount]; rfl
    rw [← hfirst]
    exact htells.ofLoad seq tx
  · refine ⟨hselected.events.isOverflown, hselected.static, rfl, fun hcon => ?_, fun hfin => ?_,
      fun hevents => absurd rfl hevents⟩
    · cases hcon
    · cases hfin

/-! ## What an observer knows -/

/-- What an observer knows of the response that is under way, given whether the confirm that is
awaited has come in. -/
def readingOf (s : OContext W) (confirmed : Bool) : Reading :=
  match s.sol.pState with
  | .idle => .idle
  | .confirmWait =>
    if s.hasSelection then
      if confirmed then .due s.sol.seq.confirmNum else .awaiting s.sol.seq.confirmNum false
    else .awaiting s.sol.seq.confirmNum true

theorem readingOf_idle {s : OContext W} (h : s.sol.pState = .idle) (confirmed : Bool) :
    s.readingOf confirmed = .idle := by
  rw [readingOf, h]

theorem readingOf_final {s : OContext W} (h : s.sol.pState = .confirmWait)
    (hselection : s.hasSelection = false) (confirmed : Bool) :
    s.readingOf confirmed = .awaiting s.sol.seq.confirmNum true := by
  rw [readingOf, h, hselection]
  rfl

theorem readingOf_more {s : OContext W} (h : s.sol.pState = .confirmWait)
    (hselection : s.hasSelection = true) (confirmed : Bool) :
    s.readingOf confirmed =
      if confirmed then .due s.sol.seq.confirmNum else .awaiting s.sol.seq.confirmNum false := by
  rw [readingOf, h, hselection]
  rfl

/-- The confirm matters only when there is more to send. -/
theorem readingOf_congr {s : OContext W} {confirmed confirmed' : Bool}
    (h : s.awaitsMore = true → confirmed = confirmed') :
    s.readingOf confirmed = s.readingOf confirmed' := by
  cases hsol : s.sol.pState with
  | idle => rw [readingOf_idle hsol, readingOf_idle hsol]
  | confirmWait =>
    cases hselection : s.hasSelection with
    | false => rw [readingOf_final hsol hselection, readingOf_final hsol hselection]
    | true => rw [h (by rw [awaitsMore, hsol, hselection]; rfl)]

/-- An unsolicited response may be sent when no fragment is due. -/
theorem next_unsolicited (s : OContext W) (fragment : Fragment) :
    (s.readingOf false).next (.unsolicited fragment) = some (s.readingOf false) := by
  unfold readingOf
  split
  · rfl
  · split <;> rfl

/-- Beside the wait only the selection matters, and only during a wait. -/
theorem readingOf_same {s s' : OContext W} (hsol : s'.sol.pState = s.sol.pState)
    (hseq : s'.sol.seq.confirmNum = s.sol.seq.confirmNum)
    (hselection : s.sol.pState = .confirmWait → s'.hasSelection = s.hasSelection)
    {confirmed confirmed' : Bool} (hconfirmed : confirmed' = confirmed) :
    s'.readingOf confirmed' = s.readingOf confirmed := by
  rw [hconfirmed, readingOf, readingOf, hsol, hseq]
  cases hstate : s.sol.pState with
  | idle => rfl
  | confirmWait => rw [hselection hstate]

/-- The observer knows what the state says. -/
structure InTurn (s : OContext W) (confirmed : Bool) : Prop where
  exact : s.SelectionsExact
  online : s.isTransmitting = true → s.isOnline = true
  reading : Reading.follow s.log = some (s.readingOf confirmed)

namespace InTurn

variable {s s' : OContext W} {confirmed : Bool}

theorem congr (h : InTurn s confirmed) (hevents : s'.eventBuffer = s.eventBuffer)
    (hstatic : s'.database = s.database) (htx : s'.isTransmitting = s.isTransmitting)
    (honline : s'.isOnline = s.isOnline) (hlog : s'.log = s.log)
    (hsol : s'.sol.pState = s.sol.pState)
    (hseq : s'.sol.seq.confirmNum = s.sol.seq.confirmNum) : InTurn s' confirmed := by
  have hselection : s'.hasSelection = s.hasSelection := by
    rw [hasSelection, hasSelection, hevents, hstatic]
  refine ⟨h.exact.congr hevents hstatic, ?_, ?_⟩
  · rw [htx, honline]
    exact h.online
  · rw [hlog, h.reading, readingOf_same hsol hseq (fun _ => hselection) rfl]

theorem confirmed_congr {confirmed' : Bool} (h : InTurn s confirmed)
    (hsame : s.awaitsMore = true → confirmed = confirmed') : InTurn s confirmed' :=
  ⟨h.exact, h.online, by rw [h.reading, readingOf_congr hsame]⟩

/-- Nothing is under way. -/
theorem of_idle (hexact : s.SelectionsExact) (honline : s.isTransmitting = true → s.isOnline = true)
    (hsol : s.sol.pState = .idle) (hlog : Reading.follow s.log = some .idle) :
    InTurn s confirmed :=
  ⟨hexact, honline, by rw [hlog, readingOf_idle hsol]⟩

theorem idle (h : InTurn s confirmed) (hsol : s.sol.pState = .idle) :
    Reading.follow s.log = some .idle := by
  rw [h.reading, readingOf_idle hsol]

/-- A fragment that comes in turn is known to be awaited. -/
theorem sentRead {r : SentRead} {first : Bool} (htells : r.Says first)
    (honline : s.isOnline = true) {e : Effect}
    (hlog : Reading.follow (s.log ++ [e]) = some (.behind r.fragment)) :
    InTurn ((s.sentRead r).note e) false := by
  refine ⟨⟨htells.events, htells.static⟩, fun _ => honline, hlog.trans (congrArg some ?_)⟩
  rw [Reading.behind]
  cases hcon : r.fragment.control.CON with
  | false =>
    refine (readingOf_idle ?_ false).symm
    simp only [OContext.sentRead, note, hcon, Bool.false_eq_true, if_false]
  | true =>
    have hfin := htells.fin hcon
    have hsol : ((s.sentRead r).note e).sol.pState = .confirmWait := by
      simp only [OContext.sentRead, note, hcon, if_true]
    rw [if_pos rfl]
    cases hselection : ((s.sentRead r).note e).hasSelection with
    | false =>
      rw [readingOf_final hsol hselection, hfin]
      have hnone : (r.database.hasAnySelection || r.eventBuffer.hasAnySelection) = false :=
        hselection
      rw [hnone]
      rfl
    | true =>
      rw [readingOf_more hsol hselection, hfin]
      have hsome : (r.database.hasAnySelection || r.eventBuffer.hasAnySelection) = true :=
        hselection
      rw [hsome]
      rfl

/-! ### Requests -/

theorem takesRequest {header : APDUHeader} {objects : List UInt8} (h : InTurn s false)
    (honline : s.isOnline = true)
    (hfresh : s.answersRead header objects = true → s.readSelectsFresh objects)
    (ht : TakesRequest cb s header objects s') : InTurn s' false := by
  cases ht with
  | unsolicited huns => exact h
  | repeatedRead huns hrepeat hread => exact h
  | repeated huns hrepeat hread hsol =>
    refine of_idle (h.exact.congr rfl rfl) (fun _ => honline) hsol ?_
    show Reading.follow (s.log ++ [_]) = _
    rw [Reading.follow_note, h.idle hsol]
    rfl
  | repeatedWaiting huns hrepeat hread hsol => exact h.congr rfl rfl rfl rfl rfl rfl rfl
  | abandons huns hnew hsol =>
    have hexact : (s.note .abandoned).SelectionsExact := h.exact.congr rfl rfl
    refine of_idle (hexact.congr rfl rfl) (fun _ => ?_) rfl ?_
    · exact honline
    show Reading.follow (s.log ++ [_]) = _
    rw [Reading.follow_note, h.reading]
    cases hselection : s.hasSelection with
    | false =>
      rw [readingOf_final hsol hselection]
      rfl
    | true =>
      rw [readingOf_more hsol hselection]
      rfl
  | defersRead huns hnew hread hsol hunsol => exact h.congr rfl rfl rfl rfl rfl rfl rfl
  | read huns hnew hread hsol hunsol =>
    obtain ⟨writer, tx, heq⟩ := @respondToReadRequest_sent W cb (s.withSeq header) header objects
    obtain ⟨loaded, hloaded⟩ : ∃ loaded, loaded = SentRead.ofLoad (s.withSeq header)
        (((s.withSeq header).recorded header objects).handleRead objects writer).1
        { (((s.withSeq header).recorded header objects).handleRead objects writer).2.2.2.1 with
          SEQ := header.control.SEQ }
        (((s.withSeq header).recorded header objects).handleRead objects writer).2.2.2.2 tx :=
      ⟨_, rfl⟩
    rw [heq _ loaded rfl hloaded]
    have hseq : loaded.fragment.control.SEQ = header.control.SEQ := by rw [hloaded]; rfl
    have hanswers : s.answersRead header objects = true := by
      rw [answersRead, hread, huns, hnew, hsol, (unsol_isIdle s).mpr hunsol]
      rfl
    have hexact : ((s.withSeq header).recorded header objects).SelectionsExact :=
      h.exact.congr rfl rfl
    have htells : loaded.Says true := by
      rw [hloaded]
      exact handleRead_tells hexact (hfresh hanswers) writer header.control.SEQ tx
    refine sentRead (s := (s.withSeq header).recorded header objects) htells honline ?_
    show Reading.follow (s.log ++ [_]) = _
    rw [Reading.follow_note, h.idle hsol, Option.bind_some]
    exact Reading.next_first hread ⟨htells.fir, hseq, htells.con, htells.con_events⟩
  | nonRead huns hnew hread hsol =>
    obtain ⟨s₁, tx, hs₁, heq⟩ := @respondToNonReadRequest_eq W cb (s.withSeq header) header objects
    rw [heq]
    obtain ⟨world, staticIIN, control, database, mask, effects, rfl, hsame, -, heffects⟩ := hs₁
    refine of_idle ⟨h.exact.events.isOverflown, fun t => ?_⟩ (fun _ => honline) rfl ?_
    · exact hsame.covered (h.exact.static t)
    · show Reading.follow (s.log ++ effects ++ [_]) = _
      rw [Reading.follow_note, Reading.follow_append, h.idle hsol, Option.bind_some,
        Reading.foldlM_next_of_forall _ fun e he => Reading.next_of_handling _ (heffects e he),
        Option.bind_some]
      exact Reading.next_other hread

/-! ### Confirms -/

/-- A confirm comes in, and from then on the next fragment is due. -/
theorem received {header : APDUHeader} (h : InTurn s confirmed)
    (hfunction : header.function = .confirm)
    (hkept : s.awaitsMore = true → confirmed = true → s.isAwaited header = true) :
    InTurn (s.note (.confirmReceived header.control)) (s.isAwaited header) := by
  refine ⟨h.exact.congr rfl rfl, h.online, ?_⟩
  show Reading.follow (s.log ++ [_]) = some (s.readingOf (s.isAwaited header))
  rw [Reading.follow_note, h.reading, Option.bind_some]
  cases hsol : s.sol.pState with
  | idle =>
    rw [readingOf_idle hsol, readingOf_idle hsol]
    rfl
  | confirmWait =>
    cases hselection : s.hasSelection with
    | false =>
      rw [readingOf_final hsol hselection, readingOf_final hsol hselection]
      rfl
    | true =>
      rw [readingOf_more hsol hselection, readingOf_more hsol hselection]
      cases confirmed with
      | true =>
        rw [hkept (by rw [awaitsMore, hsol, hselection]; rfl) rfl]
        rfl
      | false =>
        have hawaited : s.isAwaited header = true ↔
            header.control.UNS = false ∧ header.control.SEQ = s.sol.seq.confirmNum := by
          rw [isAwaited, hfunction, Bool.and_eq_true, Bool.and_eq_true, Bool.not_eq_true',
            beq_self_eq_true]
          exact ⟨fun h => ⟨h.1.2, (beq_iff_eq.mp h.2).symm⟩,
            fun h => ⟨⟨rfl, h.1⟩, beq_iff_eq.mpr h.2.symm⟩⟩
        simp only [Bool.false_eq_true, if_false, Reading.next]
        by_cases hmatch : s.isAwaited header = true
        · rw [if_pos (hawaited.mp hmatch), if_pos hmatch]
        · rw [if_neg fun hc => hmatch (hawaited.mpr hc), if_neg hmatch]

theorem isAwaited_unsol {header : APDUHeader} (huns : header.control.UNS = true) :
    s.isAwaited header = false := by
  rw [isAwaited, huns, Bool.not_true, Bool.and_false, Bool.false_and]

/-- The confirm of a fragment that is not the final one is answered by the next one. -/
theorem takesConfirm {header : APDUHeader} (h : InTurn s (s.isAwaited header))
    (hfunction : header.function = .confirm) (honline : s.isOnline = true)
    (hcount : s.awaitsMore = true → s.fragmentCount ≠ 0)
    (ht : TakesConfirm cb s header s') : InTurn s' false := by
  cases ht with
  | ignoredSol huns hsol =>
    refine h.confirmed_congr fun hmore => ?_
    rw [awaitsMore, Bool.and_eq_true, beq_iff_eq] at hmore
    rw [isAwaited, beq_eq_false_iff_ne.mpr (hsol hmore.1), Bool.and_false]
  | ignoredUnsol huns hunsol => exact h.confirmed_congr fun _ => isAwaited_unsol huns
  | last huns hsol hseq hselection =>
    refine of_idle ((h.exact.takeConfirm header.control).congr rfl rfl) h.online rfl ?_
    rw [h.exact.hasSelection_takeConfirm] at hselection
    show Reading.follow (s.log ++ [_]) = _
    rw [Reading.follow_note, h.reading, readingOf_final hsol hselection, Option.bind_some, hseq]
    exact Reading.next_confirmed_final huns
  | more huns hsol hseq hselection =>
    obtain ⟨writer, tx, heq⟩ := @continueMultiFragResponse_sent W cb
      (s.takeConfirm header.control) (header.control.SEQ + 1)
    obtain ⟨loaded, hloaded⟩ : ∃ loaded, loaded = SentRead.ofLoad (s.takeConfirm header.control)
        ((s.takeConfirm header.control).loadResponse writer).1
        { ((s.takeConfirm header.control).loadResponse writer).2.2.1 with
          SEQ := header.control.SEQ + 1 }
        ((s.takeConfirm header.control).loadResponse writer).2.2.2 tx := ⟨_, rfl⟩
    rw [heq _ loaded rfl hloaded]
    have hseq' : loaded.fragment.control.SEQ = header.control.SEQ + 1 := by rw [hloaded]; rfl
    have htells : loaded.Says ((s.takeConfirm header.control).fragmentCount == 0) := by
      rw [hloaded]
      exact (loadResponse_tells (h.exact.takeConfirm header.control) writer).ofLoad _ tx
    rw [h.exact.hasSelection_takeConfirm] at hselection
    have hlater : ((s.takeConfirm header.control).fragmentCount == 0) = false :=
      beq_eq_false_iff_ne.mpr (hcount (by rw [awaitsMore, hsol, hselection]; rfl))
    rw [hlater] at htells
    have hawaited : s.isAwaited header = true := by
      rw [isAwaited, hfunction, huns, hseq]
      simp
    refine sentRead (s := s.takeConfirm header.control) htells honline ?_
    show Reading.follow (s.log ++ [_] ++ [_]) = _
    rw [Reading.follow_note, Reading.follow_note, h.reading, hawaited,
      readingOf_more hsol hselection, if_pos rfl, Option.bind_some, hseq,
      Reading.next_confirmed_due huns, Option.bind_some]
    exact Reading.next_continued ⟨htells.fir, hseq', htells.con, htells.con_events⟩
  | null huns hunsol hseq hnull =>
    have h' : InTurn s false := h.confirmed_congr fun _ => isAwaited_unsol huns
    exact h'.congr rfl rfl rfl rfl rfl rfl rfl
  | events huns hunsol hseq hnull =>
    have h' : InTurn s false := h.confirmed_congr fun _ => isAwaited_unsol huns
    refine ⟨(h.exact.takeConfirm header.control).congr rfl rfl, h.online, ?_⟩
    show Reading.follow (s.log ++ [_]) = _
    rw [Reading.follow_note, h'.reading, Option.bind_some, Reading.next_confirmed_unsol _ huns]
    refine congrArg some (Eq.symm ?_)
    refine readingOf_same (by rfl) (by rfl) (fun _ => ?_) rfl
    exact h.exact.hasSelection_takeConfirm header.control

/-! ### Timeouts, updates and unsolicited responses -/

theorem expires (h : InTurn s s.confirmDeferred) (hok : s.Undisturbed .expire)
    (he : Expires s s') : InTurn s' s'.confirmDeferred := by
  have hkept := hok.kept
  have hconfirmed := hok.confirmed
  unfold keepsSelection at hkept
  unfold keepsConfirm at hconfirmed
  dsimp only at hkept hconfirmed
  cases he with
  | inactive htimer => exact h
  | solicited timeout htimer hsol =>
    rw [htimer] at hconfirmed
    refine of_idle (h.exact.congr rfl rfl) h.online rfl ?_
    show Reading.follow (s.log ++ [_]) = _
    rw [Reading.follow_note, h.reading, Option.bind_some]
    cases hselection : s.hasSelection with
    | false =>
      rw [readingOf_final hsol hselection]
      rfl
    | true =>
      have hdeferred : s.confirmDeferred = false := by
        rw [← Bool.not_eq_true]
        intro hconfirm
        have hunsolicited := hconfirmed (by rw [awaitsMore, hsol, hselection]; rfl) hconfirm
        cases hunsolicited
      rw [readingOf_more hsol hselection, hdeferred]
      rfl
  | unsolicited timeout htimer hunsol =>
    rw [htimer] at hkept
    refine ⟨⟨h.exact.events.unselect, h.exact.static⟩, h.online, h.reading.trans ?_⟩
    refine congrArg some (Eq.symm ?_)
    refine readingOf_same (by rfl) (by rfl) (fun hsol => ?_) (by rfl)
    show (s.database.hasAnySelection || s.eventBuffer.unselect.hasAnySelection) = s.hasSelection
    rw [unselect_hasAnySelection h.exact.events, hasSelection]
    rcases hkept hsol rfl hunsol with hdatabase | hevents
    · rw [hdatabase, Bool.true_or, Bool.true_or]
    · rw [hevents]
  | unexpected timer htimer hsol hunsol => exact h.congr rfl rfl rfl rfl rfl rfl rfl

theorem updatePoint (h : InTurn s s.confirmDeferred) (u : DatabaseBuffers.PointUpdate)
    (hkept : s.sol.pState = .confirmWait → s.keepsSelection (.updatePoint u)) :
    InTurn (s.updatePoint u) (s.updatePoint u).confirmDeferred := by
  have hsame := s.database.sameSelection_update u.type u.value u.index u.mode
  unfold keepsSelection at hkept
  dsimp only at hkept
  unfold OContext.updatePoint
  generalize s.database.update u.type u.value u.index u.mode = updated at hsame hkept ⊢
  obtain ⟨database, evt, changed⟩ := updated
  dsimp only at hsame hkept ⊢
  have hstatic : ∀ t, database.Covered t := fun t => hsame.covered (h.exact.static t)
  cases evt with
  | none =>
    dsimp only
    refine ⟨⟨h.exact.events, hstatic⟩, h.online, h.reading.trans (congrArg some (Eq.symm ?_))⟩
    refine readingOf_same (by rfl) (by rfl) (fun _ => ?_) (by rfl)
    show (database.hasAnySelection || s.eventBuffer.hasAnySelection) = s.hasSelection
    rw [hsame.hasAnySelection]
    rfl
  | some evt =>
    refine ⟨⟨h.exact.events.updateAny evt, hstatic⟩, h.online, ?_⟩
    dsimp only
    rw [Reading.follow_append, h.reading, Option.bind_some, Reading.foldlM_next_of_forall]
    rotate_left
    · intro e he
      obtain ⟨id, -, rfl⟩ := List.mem_map.mp he
      rfl
    refine congrArg some (Eq.symm ?_)
    refine readingOf_same (by rfl) (by rfl) (fun hsol => ?_) (by rfl)
    show (database.hasAnySelection || (s.eventBuffer.updateAny evt).hasAnySelection) =
      s.hasSelection
    rw [hsame.hasAnySelection]
    cases hany : s.hasSelection with
    | true =>
      rcases hkept hsol hany with hdatabase | hevents
      · rw [hdatabase, Bool.true_or]
      · rw [updateAny_hasAnySelection h.exact.events evt hevents, Bool.or_true]
    | false =>
      rw [hasSelection, Bool.or_eq_false_iff] at hany
      rw [hany.1, updateAny_hasAnySelection_of_none h.exact.events evt hany.2, Bool.or_false]

/-- An unsolicited response is sent, and whether something is selected has stayed the same. -/
theorem sendUnsolFrom {loaded : OContext W} (h : InTurn s s.confirmDeferred)
    (hwaits : s.confirmDeferred = true → s.isTransmitting = true)
    (hcan : s.canSendUnsolicited = true) (hexact : loaded.SelectionsExact)
    (hloaded : loaded = { s with eventBuffer := loaded.eventBuffer })
    (hselection : s.sol.pState = .confirmWait → loaded.hasSelection = s.hasSelection)
    (tx : TxBuffer) (fragment : Fragment) :
    InTurn ((loaded.sendUnsolFrom tx).note (.unsolicited fragment)) s.confirmDeferred := by
  have htransmit : s.isOnline = true ∧ s.isTransmitting = false := by
    simp only [canSendUnsolicited, canTransmit, Bool.and_eq_true, Bool.not_eq_true'] at hcan
    exact hcan.1.1
  have hdeferred : s.confirmDeferred = false := by
    rw [← Bool.not_eq_true]
    intro hconfirm
    have htx := hwaits hconfirm
    rw [htransmit.2] at htx
    cases htx
  have hlog : loaded.log = s.log := by rw [hloaded]
  have hsol : loaded.sol = s.sol := by rw [hloaded]
  have honline : loaded.isOnline = true := by
    rw [hloaded]
    exact htransmit.1
  unfold OContext.sendUnsolFrom startUnsolicitedConfirmTimer
  rw [startConfirmTimer_eq, hdeferred]
  refine ⟨⟨hexact.events.isOverflown, hexact.static⟩, fun _ => honline, ?_⟩
  show Reading.follow (loaded.log ++ [_]) = _
  rw [hlog, Reading.follow_note, h.reading, hdeferred, Option.bind_some, next_unsolicited]
  refine congrArg some (Eq.symm ?_)
  refine readingOf_same ?_ ?_ (fun hwait => ?_) (by rfl)
  · show loaded.sol.pState = _
    rw [hsol]
  · show loaded.sol.seq.confirmNum = _
    rw [hsol]
  · show (loaded.database.hasAnySelection || loaded.eventBuffer.isOverflown.1.hasAnySelection) = _
    rw [isOverflown_hasAnySelection]
    exact hselection hwait

/-- An unsolicited response with events. -/
theorem checkForUnsolicited_events {s : OContext W} (h : s.willSendEvents = true) :
    ∃ tx fragment, s.checkForUnsolicited cb =
      ((s.loadUnsolicited s.unsol.tx.start.getWriter).1.sendUnsolFrom tx).note
        (.unsolicited fragment) := by
  simp only [willSendEvents, Bool.and_eq_true] at h
  obtain ⟨tx, heq⟩ := @sendUnsolicited_eq W cb
    (s.loadUnsolicited s.unsol.tx.start.getWriter).1
    (s.unsol.tx.start.withWriter (s.loadUnsolicited s.unsol.tx.start.getWriter).2.1)
    (s.loadUnsolicited s.unsol.tx.start.getWriter).2.2
  unfold OContext.checkForUnsolicited
  rw [if_pos h.1.1, if_pos h.1.2, if_pos h.2]
  exact ⟨tx, _, heq⟩

theorem checkForUnsolicited (h : InTurn s s.confirmDeferred)
    (hwaits : s.confirmDeferred = true → s.isTransmitting = true)
    (hok : s.Undisturbed .checkForUnsolicited) :
    InTurn (s.checkForUnsolicited cb) (s.checkForUnsolicited cb).confirmDeferred := by
  by_cases hevents : s.willSendEvents = true
  · obtain ⟨tx, fragment, heq⟩ := @checkForUnsolicited_events W cb s hevents
    have hkept := hok.kept
    unfold keepsSelection at hkept
    dsimp only at hkept
    have hexact := h.exact.loadUnsolicited s.unsol.tx.start.getWriter
    have hloaded : (s.loadUnsolicited s.unsol.tx.start.getWriter).1 =
        { s with eventBuffer :=
            (s.loadUnsolicited s.unsol.tx.start.getWriter).1.eventBuffer } := rfl
    rw [heq]
    generalize s.loadUnsolicited s.unsol.tx.start.getWriter = loaded at hexact hloaded hkept ⊢
    have hcan : s.canSendUnsolicited = true := by
      simp only [willSendEvents, Bool.and_eq_true] at hevents
      exact hevents.1.1
    have hsent := h.sendUnsolFrom hwaits hcan hexact hloaded (fun hsol => ?_) tx fragment
    · refine hsent.confirmed_congr fun _ => ?_
      unfold OContext.sendUnsolFrom startUnsolicitedConfirmTimer
      rw [startConfirmTimer_eq, hloaded]
      rfl
    · have hdatabase : loaded.1.database = s.database := by rw [hloaded]
      rw [hasSelection, hasSelection, hdatabase]
      rcases hkept hsol hevents with hstatic | hsame
      · rw [hstatic, Bool.true_or, Bool.true_or]
      · rw [hsame]
  · have hs := @OContext.sendsUnsolicited W cb s
    generalize s.checkForUnsolicited cb = s' at hs ⊢
    cases hs with
    | nothing hnot => exact h
    | null tx hcan hnull =>
      have hsent := h.sendUnsolFrom hwaits hcan h.exact rfl (fun _ => rfl) tx
        { control := unsolControl s.unsol.seq.num, events := [], bytes := tx.getLastResponse }
      refine hsent.confirmed_congr fun _ => ?_
      unfold OContext.sendUnsolFrom startUnsolicitedConfirmTimer
      rw [startConfirmTimer_eq]
      rfl
    | events writer tx hcan hnull hevents' =>
      exact absurd (by rw [willSendEvents, hcan, hnull, hevents']; rfl) hevents

theorem onLowerLayerDown (h : InTurn s s.confirmDeferred) :
    InTurn s.onLowerLayerDown s.onLowerLayerDown.confirmDeferred := by
  unfold OContext.onLowerLayerDown
  split
  · refine of_idle ⟨h.exact.events.unselect, h.exact.static⟩ (fun htx => ?_) rfl ?_
    · cases htx
    · show Reading.follow (s.log ++ [_]) = _
      rw [Reading.follow_note, h.reading]
      rfl
  · exact h

end InTurn

/-! ## All actions -/

/-- A confirm is kept for later only while something is being transmitted. -/
def ConfirmsWait (s : OContext W) : Prop :=
  s.deferred.isSet = true → s.deferred.header.function = .confirm → s.isTransmitting = true

/-- What holds between two actions. -/
structure Answering (s : OContext W) : Prop where
  inTurn : InTurn s s.confirmDeferred
  waits : ConfirmsWait s

theorem confirmDeferred_eq_false {s : OContext W}
    (h : s.deferred.isSet = true → s.deferred.header.function ≠ .confirm) :
    s.confirmDeferred = false := by
  cases hset : s.deferred.isSet with
  | false => rw [confirmDeferred, hset, Bool.false_and]
  | true =>
    rw [confirmDeferred, isAwaited, beq_eq_false_iff_ne.mpr (h hset), Bool.false_and,
      Bool.false_and, Bool.and_false]

theorem deferred_takesConfirm {s s' : OContext W} {header : APDUHeader}
    (ht : TakesConfirm cb s header s') : s'.deferred = s.deferred := by
  cases ht with
  | more huns hsol hseq hselection =>
    obtain ⟨r, -, -, -, heq⟩ := @continueMultiFragResponse_state W cb
      (s.takeConfirm header.control) (header.control.SEQ + 1)
    rw [heq]
    rfl
  | _ => rfl

/-- A request that is taken up is answered or kept for later. -/
theorem deferred_takesRequest {s s' : OContext W} {header : APDUHeader} {objects : List UInt8}
    (ht : TakesRequest cb s header objects s') :
    s'.deferred = s.deferred ∨ s'.deferred = s.deferred.set header objects := by
  cases ht with
  | repeatedWaiting huns hrepeat hread hsol => exact .inr rfl
  | abandons huns hnew hsol => exact .inr rfl
  | defersRead huns hnew hread hsol hunsol => exact .inr rfl
  | read huns hnew hread hsol hunsol =>
    obtain ⟨r, -, -, -, heq⟩ := @respondToReadRequest_state W cb (s.withSeq header) header objects
    rw [heq]
    exact .inl rfl
  | nonRead huns hnew hread hsol =>
    obtain ⟨s₁, tx, hs₁, heq⟩ := @respondToNonReadRequest_eq W cb (s.withSeq header) header objects
    rw [heq]
    obtain ⟨world, staticIIN, control, database, mask, effects, rfl, -, -, -⟩ := hs₁
    exact .inl rfl
  | _ => exact .inl rfl

theorem parseHeader_eq (s : OContext W) (fragment : List UInt8) :
    s.parseHeader cb fragment =
      match requestOf fragment with
      | some (header, objects) => s.processAPDU cb header objects
      | none => s := by
  unfold parseHeader requestOf
  cases APDUHeaderParser.parseRequest fragment with
  | none => rfl
  | some header =>
    dsimp only
    split <;> rfl

namespace Answering

variable {s s' : OContext W}

theorem initial (world : W) (now : Int) (events : EventBufferConfig) {database : DatabaseBuffers}
    (hdatabase : database.Unselected) (params : OutstationParams) :
    Answering (OContext.initial world now events database params) := by
  refine ⟨.of_idle ⟨EventBuffer.exact_initial events, hdatabase.covered⟩ (fun h => ?_) rfl rfl,
    fun h => ?_⟩
  · cases h
  · cases h

theorem congr (h : Answering s) (hsol : s'.sol = s.sol) (hdeferred : s'.deferred = s.deferred)
    (hevents : s'.eventBuffer = s.eventBuffer) (hstatic : s'.database = s.database)
    (htx : s'.isTransmitting = s.isTransmitting) (honline : s'.isOnline = s.isOnline)
    (hlog : s'.log = s.log) : Answering s' := by
  refine ⟨?_, ?_⟩
  · have hconfirm : s'.confirmDeferred = s.confirmDeferred := by
      rw [confirmDeferred, confirmDeferred, isAwaited, isAwaited, hdeferred, hsol]
    rw [hconfirm]
    exact h.inTurn.congr hevents hstatic htx honline hlog (by rw [hsol]) (by rw [hsol])
  · rw [ConfirmsWait, hdeferred, htx]
    exact h.waits

/-- Nothing that was kept for later is a confirm. -/
theorem of_deferred (hturn : InTurn s false)
    (hdeferred : s.deferred.isSet = true → s.deferred.header.function ≠ .confirm) :
    Answering s := by
  refine ⟨?_, fun hset hfunction => absurd hfunction (hdeferred hset)⟩
  rw [confirmDeferred_eq_false hdeferred]
  exact hturn

theorem parse {fragment : List UInt8} (h : Answering s) (hok : s.Undisturbed (.parse fragment))
    (honline : s.isOnline = true) : Answering (s.parseHeader cb fragment) := by
  have hfresh := hok.fresh
  have hkept := hok.confirmed
  rw [parseHeader_eq]
  unfold requestTaken at hfresh
  unfold keepsConfirm at hkept
  dsimp only at hfresh hkept
  cases hrequest : requestOf fragment with
  | none => exact h
  | some q =>
    obtain ⟨header, objects⟩ := q
    rw [hrequest] at hfresh hkept
    dsimp only
    unfold processAPDU
    by_cases hnoAck : header.function.isNoAckFuncCode = true
    · rw [if_pos hnoAck]
      obtain ⟨world, hworld⟩ := @processRequestNoAck_state W cb s header objects
      rw [hworld]
      exact h.congr rfl rfl rfl rfl rfl rfl rfl
    · rw [if_neg hnoAck]
      dsimp only
      have hkept' : s.awaitsMore = true → s.confirmDeferred = true →
          s.isAwaited header = true := by
        intro hmore hconfirm
        exact (hkept hmore hconfirm _ rfl).resolve_left hnoAck
      cases htx : s.isTransmitting with
      | true =>
        by_cases hfunction : header.function = .confirm
        · rw [noteConfirm, if_pos hfunction]
          rw [show (s.note (.confirmReceived header.control)).isTransmitting = true from htx]
          have hreceived := h.inTurn.received hfunction hkept'
          refine ⟨?_, fun _ _ => htx⟩
          exact hreceived.congr rfl rfl rfl rfl rfl rfl rfl
        · rw [noteConfirm, if_neg hfunction, htx]
          refine of_deferred ?_ fun _ => hfunction
          refine (h.inTurn.confirmed_congr fun hmore => ?_).congr rfl rfl rfl rfl rfl rfl rfl
          rw [← Bool.not_eq_true]
          intro hconfirm
          have hawaited := hkept' hmore hconfirm
          rw [isAwaited, beq_eq_false_iff_ne.mpr hfunction] at hawaited
          cases hawaited
      | false =>
        have hdeferred : s.deferred.isSet = true → s.deferred.header.function ≠ .confirm := by
          intro hset hfunction
          have htransmits := h.waits hset hfunction
          rw [htx] at htransmits
          cases htransmits
        by_cases hfunction : header.function = .confirm
        · rw [noteConfirm, if_pos hfunction]
          rw [show (s.note (.confirmReceived header.control)).isTransmitting = false from htx]
          rw [if_neg Bool.false_ne_true, if_pos hfunction]
          have hreceived := h.inTurn.received hfunction hkept'
          have ht := @OContext.takesConfirm W cb (s.note (.confirmReceived header.control)) header
          refine of_deferred
            (InTurn.takesConfirm hreceived hfunction honline hok.counted ht) ?_
          rw [deferred_takesConfirm ht]
          exact hdeferred
        · rw [noteConfirm, if_neg hfunction, htx]
          rw [if_neg Bool.false_ne_true, if_neg hfunction]
          have ht := @OContext.takesRequest W cb s header objects
          rw [htx, if_neg Bool.false_ne_true] at hfresh
          have hturn := h.inTurn
          rw [confirmDeferred_eq_false hdeferred] at hturn
          refine of_deferred (InTurn.takesRequest hturn honline (hfresh _ rfl) ht) ?_
          rcases deferred_takesRequest ht with hsame | hset
          · rw [hsame]
            exact hdeferred
          · rw [hset]
            exact fun _ => hfunction

/-- A request that was kept for later is taken up. -/
theorem takesDeferred (hturn : InTurn s s.confirmDeferred)
    (hwaits : ConfirmsWait s ∨ s.canTransmit = true)
    (hfresh : s.canTransmit = true → s.deferred.isSet = true →
      s.answersRead s.deferred.header s.deferred.objects = true →
      s.readSelectsFresh s.deferred.objects)
    (hcount : s.awaitsMore = true → s.fragmentCount ≠ 0) (ht : TakesDeferred cb s s') :
    Answering s' := by
  cases ht with
  | nothing hnot =>
    refine ⟨hturn, ?_⟩
    rcases hwaits with hwaits | hcan
    · exact hwaits
    · intro hset
      rw [hnot hcan] at hset
      cases hset
  | waits hset hread hunsol =>
    refine ⟨hturn, fun _ hfunction => ?_⟩
    rw [hread] at hfunction
    cases hfunction
  | confirm hcan hset hfunction hc =>
    have honline : s.isOnline = true := (Bool.and_eq_true_iff.mp hcan).1
    have hconfirm : s.confirmDeferred = s.isAwaited s.deferred.header := by
      rw [confirmDeferred, hset, Bool.true_and]
    rw [hconfirm] at hturn
    refine of_deferred ?_ fun hset' => ?_
    · exact (InTurn.takesConfirm hturn hfunction honline hcount hc).congr rfl rfl rfl rfl rfl
        rfl rfl
    · cases hset'
  | request hcan hset hfunction hread hr =>
    have honline : s.isOnline = true := (Bool.and_eq_true_iff.mp hcan).1
    rw [confirmDeferred_eq_false fun _ => hfunction] at hturn
    refine of_deferred ?_ fun hset' => ?_
    · exact (InTurn.takesRequest hturn honline (hfresh hcan hset) hr).congr rfl rfl rfl rfl rfl
        rfl rfl
    · cases hset'

theorem perform {a : Action W} (h : Answering s) (hok : s.Undisturbed a)
    (honline : a.isReceived = true → s.isOnline = true) : Answering (s.perform cb a) := by
  have hwaits : s.confirmDeferred = true → s.isTransmitting = true := by
    intro hconfirm
    simp only [confirmDeferred, isAwaited, Bool.and_eq_true, beq_iff_eq] at hconfirm
    exact h.waits hconfirm.1 hconfirm.2.1.1
  cases a with
  | goOnline =>
    refine ⟨⟨h.inTurn.exact.congr rfl rfl, fun _ => rfl, h.inTurn.reading⟩, h.waits⟩
  | goOffline =>
    refine ⟨h.inTurn.onLowerLayerDown, ?_⟩
    simp only [OContext.perform, onLowerLayerDown]
    split
    · intro hset
      cases hset
    · exact h.waits
  | transmitted =>
    have hcan : ({ s with isTransmitting := false } : OContext W).canTransmit = true := by
      rw [canTransmit, honline rfl]
      rfl
    refine takesDeferred (s := { s with isTransmitting := false })
      ⟨h.inTurn.exact.congr rfl rfl, fun htx => ?_, h.inTurn.reading⟩ (.inr hcan)
      (fun _ hset hanswers => ?_) hok.counted (OContext.takesDeferred _)
    · cases htx
    · have hset' : s.deferred.isSet = true := hset
      refine hok.fresh (s.deferred.header, s.deferred.objects) ?_ hanswers
      rw [requestTaken, honline rfl, hset']
      rfl
  | parse fragment => exact h.parse hok (honline rfl)
  | expire =>
    refine ⟨InTurn.expires h.inTurn hok s.expires, ?_⟩
    have he := s.expires
    simp only [OContext.perform]
    generalize s.expireTimer = s' at he ⊢
    cases he <;> exact h.waits
  | updatePoint u =>
    refine ⟨h.inTurn.updatePoint u hok.kept, ?_⟩
    simp only [OContext.perform, OContext.updatePoint]
    split <;> exact h.waits
  | checkForDeferredRequest =>
    refine takesDeferred h.inTurn (.inl h.waits) (fun hcan hset hanswers => ?_) hok.counted
      s.takesDeferred
    refine hok.fresh (s.deferred.header, s.deferred.objects) ?_ hanswers
    rw [requestTaken, hcan, hset]
    rfl
  | checkForUnsolicited =>
    refine ⟨InTurn.checkForUnsolicited h.inTurn hwaits hok, ?_⟩
    have hs := @OContext.sendsUnsolicited W cb s
    simp only [OContext.perform]
    generalize s.checkForUnsolicited cb = s' at hs ⊢
    cases hs with
    | nothing hnot => exact h.waits
    | null tx hcan hnull => exact fun _ _ => rfl
    | events writer tx hcan hnull hevents => exact fun _ _ => rfl
  | setRestartIIN => exact h.congr rfl rfl rfl rfl rfl rfl rfl
  | elapse milliseconds => exact h.congr rfl rfl rfl rfl rfl rfl rfl
  | surroundings world => exact h.congr rfl rfl rfl rfl rfl rfl rfl

end Answering

/-! ## The response to a READ -/

/-- The fragments of the responses to READs and the confirms have come in turn, and a fragment that
is due waits for a transmission to be over. -/
def AnswersReads (s : OContext W) : Prop :=
  ∃ reading, Reading.follow s.log = some reading ∧
    ∀ seq, reading = .due seq → s.isTransmitting = true

theorem Answering.answersReads {s : OContext W} (h : Answering s) : s.AnswersReads := by
  refine ⟨_, h.inTurn.reading, fun seq hdue => ?_⟩
  unfold readingOf at hdue
  split at hdue
  · cases hdue
  · split at hdue
    · split at hdue
      next hconfirm =>
        simp only [confirmDeferred, isAwaited, Bool.and_eq_true, beq_iff_eq] at hconfirm
        exact h.waits hconfirm.1 hconfirm.2.1.1
      next => cases hdue
    · cases hdue

/-- In all states of a run in which nothing disturbs a response, the fragments of every response to
a READ have come in turn. -/
theorem reads_answered (world : W) (now : Int) (config : EventBufferConfig)
    {database : DatabaseBuffers} (hdatabase : database.Unselected) (params : OutstationParams)
    {events : List (Event W)}
    (hevents : ActsThroughout cb Undisturbed (initial world now config database params) events) :
    Always (step cb) AnswersReads (initial world now config database params) events := by
  have hinitial := Answering.initial world now config hdatabase params
  refine (always_step_invariant (fun s a hs hok => ?_) hinitial hevents.online).imp
    fun s hs => hs.answersReads
  exact hs.perform hok.1 hok.2

/-- Twenty counters are read, and both fragments are sent. -/
def readingBoth : List (Event Nat) := readingAll ++ [.receive [0xC3, 0x00], .sendResult true]

theorem reads_answered_both :
    Always (step countingCallbacks) AnswersReads (twenty smallParams) readingBoth :=
  reads_answered 0 0 (.allTypes 4) (DatabaseBuffers.unselected_ofTemplate _ _ _) smallParams
    (by decide +kernel)

/-- Nothing is reported unsolicited. -/
def quietParams : OutstationParams := { smallParams with allowUnsolicited := false }

/-- Of two events one is read by its type and then by its class, and the response is confirmed. -/
def readTwice : List (Event Nat) :=
  [.lowerLayerUp, .updates [counts 1 7, counts 2 9],
    .receive [0xC1, 0x01, 0x16, 0x00, 0x07, 0x01, 0x3C, 0x02, 0x06], .sendResult true,
    .receive [0xC1, 0x00]]

/-- The confirm of the final fragment is answered by another fragment. -/
theorem not_reads_answered :
    ¬ ∀ events, (twentyAfter quietParams events).AnswersReads := by
  intro h
  obtain ⟨reading, hreading, -⟩ := h readTwice
  have hfollow : Reading.follow (twentyAfter quietParams readTwice).log = none := by
    decide +kernel
  rw [hfollow] at hreading
  cases hreading

end OContext
end Outstation
end Dnp3
