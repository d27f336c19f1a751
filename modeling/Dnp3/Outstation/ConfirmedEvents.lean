import Dnp3.Outstation.WrittenEvents

/-!
# Confirmed events

The events of a response are cleared when the response is confirmed.  Which events these are is not
kept with the response: the records that are written are cleared, whichever response they were
written into.  An unsolicited response with events that is sent while the confirm of a solicited one
is awaited takes the place of it, and then a solicited confirm clears events that the master may
never have seen.

When this does not happen, and the counter of selected records counts all of them, a record leaves
the buffer only when the response that it was last written into is confirmed, or when it is
discarded as the oldest of its type.
-/

namespace Dnp3
namespace Outstation

open App Library

/-- A confirm, if it is one, is that of a solicited response. -/
def Effect.isSolicited : Effect → Bool
  | .confirmed control _ => !control.UNS
  | _ => true

/-- The fragment that is handed to the lower layer. -/
def Effect.fragment : Effect → Option Fragment
  | .responded _ _ fragment => some fragment
  | .continued fragment => some fragment
  | .unsolicited fragment => some fragment
  | _ => none

theorem Effect.fragment_of_handling {e : Effect} (h : e.isHandling = true) : e.fragment = none := by
  cases e <;> first | rfl | cases h

/-- The fragment that a record was last written into, after one more effect. -/
def Effect.holds (id : Nat) (last : Option Fragment) (e : Effect) : Option Fragment :=
  match e.fragment with
  | some fragment => if id ∈ fragment.events then some fragment else last
  | none => last

/-- The fragment that a record was last written into. -/
def fragmentOf (id : Nat) (log : List Effect) : Option Fragment := log.foldl (Effect.holds id) none

@[simp] theorem fragmentOf_note (id : Nat) (log : List Effect) (e : Effect) :
    fragmentOf id (log ++ [e]) = Effect.holds id (fragmentOf id log) e := by
  rw [fragmentOf, List.foldl_append]
  rfl

/-- Effects without records are without consequence. -/
theorem fragmentOf_append (id : Nat) {log effects : List Effect}
    (h : ∀ e ∈ effects, ∀ fragment, e.fragment = some fragment → fragment.events = []) :
    fragmentOf id (log ++ effects) = fragmentOf id log := by
  induction effects generalizing log with
  | nil => rw [List.append_nil]
  | cons e effects ih =>
    rw [List.append_cons, ih fun e' he' => h e' (List.mem_cons_of_mem e he'), fragmentOf_note,
      Effect.holds]
    split
    next fragment hfragment =>
      rw [h e List.mem_cons_self fragment hfragment, if_neg (List.not_mem_nil)]
    next => rfl

namespace EventBuffer

/-- The records that are written are in the fragment, and nothing else has changed. -/
structure Writes (b b' : EventBuffer) (events : List Nat) : Prop where
  ids : b'.ids = b.ids
  nextId : b'.nextId = b.nextId
  written_selected : b'.WrittenSelected
  events : ∀ r ∈ b'.records, r.written = true → r.id ∈ events

/-- What loading writes are the records that were not written before. -/
theorem Writes.load {b : EventBuffer} (h : b.Unwritten) (writer : HeaderWriter) :
    Writes b (b.load writer).1 (newlyWritten b (b.load writer).1) := by
  refine ⟨b.ids_load writer, rfl, ?_, ?_⟩
  · have hselected : b.WrittenSelected := by
      intro r hr hwritten
      rw [h r hr] at hwritten
      cases hwritten
    exact hselected.load writer
  · exact fun r hr hwritten => mem_newlyWritten (b.ids_load writer) h hr hwritten

theorem records_isOverflown (b : EventBuffer) : b.isOverflown.1.records = b.records := by
  unfold isOverflown
  dsimp only
  split <;> rfl

theorem nextId_isOverflown (b : EventBuffer) : b.isOverflown.1.nextId = b.nextId := by
  unfold isOverflown
  dsimp only
  split <;> rfl

theorem Writes.isOverflown {b b' : EventBuffer} {events : List Nat} (h : Writes b b' events) :
    Writes b b'.isOverflown.1 events := by
  have hrecords := b'.records_isOverflown
  refine ⟨?_, b'.nextId_isOverflown.trans h.nextId, ?_, ?_⟩
  · rw [EventBuffer.ids, hrecords]
    exact h.ids
  · rw [WrittenSelected, hrecords]
    exact h.written_selected
  · rw [hrecords]
    exact h.events

end EventBuffer

namespace ReadHandler

/-- A READ selects records and does nothing else to them. -/
structure SelectsOnly (b b' : EventBuffer) : Prop where
  ids : b'.ids = b.ids
  nextId : b'.nextId = b.nextId
  unwritten : b.Unwritten → b'.Unwritten

theorem SelectsOnly.refl (b : EventBuffer) : SelectsOnly b b := ⟨rfl, rfl, id⟩

theorem SelectsOnly.trans {b b' b'' : EventBuffer} (h : SelectsOnly b b')
    (h' : SelectsOnly b' b'') :
    SelectsOnly b b'' :=
  ⟨h'.ids.trans h.ids, h'.nextId.trans h.nextId, fun hb => h'.unwritten (h.unwritten hb)⟩

theorem selectsOnly_selectEvents (b : EventBuffer) (s : EventBuffer.EventSelection) (max : UInt32) :
    SelectsOnly b (b.selectEvents s max) :=
  ⟨b.ids_selectEvents s max, rfl, fun h => h.selectEvents s max⟩

theorem selectsOnly_selectMaxCount (b : EventBuffer) (gv : GroupVariation) (max : UInt32) :
    SelectsOnly b (b.selectMaxCount gv max).1 := by
  rw [EventBuffer.selectMaxCount_eq]
  split
  · exact selectsOnly_selectEvents b _ max
  · exact .refl b

/-- A header of a READ selects records and does nothing else to them. -/
theorem selectsOnly_processHeader (n : Nat) (h : ReadHandler) (header : ObjectHeader) :
    SelectsOnly h.eventBuffer (processHeader n h header).1.eventBuffer := by
  unfold processHeader
  split
  · split
    · exact .refl _
    · exact selectsOnly_selectMaxCount _ _ _
    · exact .refl _
  · exact .refl _
  · exact selectsOnly_selectMaxCount _ _ _
  · exact .refl _

theorem selectsOnly_onHeaders (h : ReadHandler) (headers : List ObjectHeader) :
    SelectsOnly h.eventBuffer
      (APDUHandler.onHeaders processHeader h headers).state.eventBuffer :=
  APDUHandler.onHeaders_keeps
    (I := fun h' : ReadHandler => SelectsOnly h.eventBuffer h'.eventBuffer)
    (fun n h' header hs => hs.trans (selectsOnly_processHeader n h' header)) (.refl _) headers

end ReadHandler

namespace OContext

variable {W : Type} {cb : Callbacks W}

/-! ## What is loaded -/

theorem writes_loadResponse {s : OContext W} (h : s.eventBuffer.Unwritten) (writer : HeaderWriter) :
    EventBuffer.Writes s.eventBuffer (s.loadResponse writer).1.eventBuffer
      (s.loadResponse writer).2.2.2 := by
  have hload := EventBuffer.Writes.load h writer
  unfold loadResponse
  dsimp only
  split
  · exact hload
  · exact hload

theorem selectsOnly_selectHeaders (s : OContext W) (headers : List ObjectHeader) :
    ReadHandler.SelectsOnly s.eventBuffer (s.selectHeaders headers).1.eventBuffer :=
  ReadHandler.selectsOnly_onHeaders ⟨s.database, s.eventBuffer⟩ headers

/-- A READ writes the records of its first fragment. -/
theorem writes_handleRead {s : OContext W} (h : s.eventBuffer.WrittenSelected)
    (hcounted : s.eventBuffer.SelectionCounted) (objects : List UInt8) (writer : HeaderWriter) :
    EventBuffer.Writes s.eventBuffer (s.handleRead objects writer).1.eventBuffer
      (s.handleRead objects writer).2.2.2.2 := by
  have hselects := s.resetRead.selectsOnly_selectHeaders
    (APDUParser.parse objects false ReadHandler.isAllowed).2
  have hunwritten := hselects.unwritten (EventBuffer.unwritten_unselect h hcounted)
  have hids := hselects.ids.trans s.eventBuffer.ids_unselect
  have hnext := hselects.nextId
  unfold handleRead
  dsimp only
  generalize s.resetRead.selectHeaders (APDUParser.parse objects false ReadHandler.isAllowed).2 =
    selected at *
  split
  · obtain ⟨hids', hnext', hselected, hevents⟩ := writes_loadResponse hunwritten writer
    exact ⟨hids'.trans hids, hnext'.trans hnext, hselected, hevents⟩
  · refine ⟨hids, hnext, ?_, ?_⟩
    · intro r hr hwritten
      rw [hunwritten r hr] at hwritten
      cases hwritten
    · intro r hr hwritten
      rw [hunwritten r hr] at hwritten
      cases hwritten

theorem writes_loadUnsolicited {s : OContext W} (h : s.eventBuffer.WrittenSelected)
    (hcounted : s.eventBuffer.SelectionCounted) (writer : HeaderWriter) :
    EventBuffer.Writes s.eventBuffer (s.loadUnsolicited writer).1.eventBuffer
      (s.loadUnsolicited writer).2.2 := by
  have hunwritten := (EventBuffer.unwritten_unselect h hcounted).selectEvents
    (.byClass s.params.unsolClassMask) (2 ^ 32 - 1)
  obtain ⟨hids, hnext, hselected, hevents⟩ := EventBuffer.Writes.load hunwritten writer
  exact ⟨hids.trans ((EventBuffer.ids_selectEvents _ _ _).trans s.eventBuffer.ids_unselect), hnext,
    hselected, hevents⟩

/-- A response to a READ is not unsolicited. -/
theorem uns_loadResponse (s : OContext W) (writer : HeaderWriter) :
    (s.loadResponse writer).2.2.1.UNS = false := by
  unfold loadResponse
  dsimp only
  split <;> rfl

theorem uns_handleRead (s : OContext W) (objects : List UInt8) (writer : HeaderWriter) :
    (s.handleRead objects writer).2.2.2.1.UNS = false := by
  unfold handleRead
  dsimp only
  split
  · exact uns_loadResponse _ _
  · rfl

/-! ## Written records belong to the response that is awaited -/

/-- The record was last written into a fragment with this control field. -/
def HeldBy (s : OContext W) (r : SOERecord) (uns : Bool) (seq : AppSeqNum) : Prop :=
  ∃ fragment, fragmentOf r.id s.log = some fragment ∧ fragment.control.UNS = uns ∧
    fragment.control.SEQ = seq

/-- While a confirm is awaited that clears the records that are written, these are in the response
it belongs to. -/
structure Attributed (s : OContext W) : Prop where
  written_selected : s.eventBuffer.WrittenSelected
  sol : s.sol.pState = .confirmWait → ∀ r ∈ s.eventBuffer.records, r.written = true →
    s.HeldBy r false s.sol.seq.confirmNum
  unsol : s.unsol.pState = .confirmWait → s.unsol.completedNull = true →
    ∀ r ∈ s.eventBuffer.records, r.written = true → s.HeldBy r true s.unsol.seq.confirmNum
  apart : s.sol.pState = .confirmWait → s.unsol.pState = .confirmWait →
    s.unsol.completedNull = false

/-- Records leave the buffer only for the confirm of the fragment that they were last written
into. -/
def ClearsConfirmed (s s' : OContext W) : Prop :=
  ∀ r ∈ s.eventBuffer.records, r.id ∉ s'.eventBuffer.ids →
    ∃ effects control cleared, s'.log = s.log ++ effects ∧
      .confirmed control cleared ∈ effects ∧ r.id ∈ cleared ∧
      s.HeldBy r control.UNS control.SEQ

theorem ClearsConfirmed.of_ids {s s' : OContext W} (h : s'.eventBuffer.ids = s.eventBuffer.ids) :
    ClearsConfirmed s s' := by
  intro r hr hgone
  rw [h] at hgone
  exact absurd (List.mem_map_of_mem hr) hgone

namespace Attributed

variable {s s' : OContext W}

/-- Fewer records are written, fewer confirms are awaited, and no record is in a new fragment. -/
theorem of_less (h : Attributed s) (hselected : s'.eventBuffer.WrittenSelected)
    (hrecords : ∀ r ∈ s'.eventBuffer.records, r.written = true →
      ∃ r' ∈ s.eventBuffer.records, r'.written = true ∧ r'.id = r.id)
    (hlog : ∀ id, fragmentOf id s'.log = fragmentOf id s.log)
    (hsol : s'.sol.pState = .confirmWait →
      s.sol.pState = .confirmWait ∧ s'.sol.seq.confirmNum = s.sol.seq.confirmNum)
    (hunsol : s'.unsol.pState = .confirmWait → s.unsol.pState = .confirmWait ∧
      s'.unsol.seq.confirmNum = s.unsol.seq.confirmNum ∧
      s'.unsol.completedNull = s.unsol.completedNull) : Attributed s' := by
  constructor
  · exact hselected
  · intro hwait r hr hwritten
    obtain ⟨r', hr', hwritten', hid⟩ := hrecords r hr hwritten
    obtain ⟨hwait', hnum⟩ := hsol hwait
    have hheld := h.sol hwait' r' hr' hwritten'
    unfold HeldBy at hheld ⊢
    rwa [hlog, hnum, ← hid]
  · intro hwait hnull r hr hwritten
    obtain ⟨r', hr', hwritten', hid⟩ := hrecords r hr hwritten
    obtain ⟨hwait', hnum, hnull'⟩ := hunsol hwait
    rw [hnull'] at hnull
    have hheld := h.unsol hwait' hnull r' hr' hwritten'
    unfold HeldBy at hheld ⊢
    rwa [hlog, hnum, ← hid]
  · intro hwait hwait'
    obtain ⟨hwait', -, hnull⟩ := hunsol hwait'
    rw [hnull]
    exact h.apart (hsol hwait).1 hwait'

theorem congr (h : Attributed s) (hrecords : s'.eventBuffer.records = s.eventBuffer.records)
    (hlog : ∀ id, fragmentOf id s'.log = fragmentOf id s.log)
    (hsol : s'.sol.pState = .confirmWait →
      s.sol.pState = .confirmWait ∧ s'.sol.seq.confirmNum = s.sol.seq.confirmNum)
    (hunsol : s'.unsol.pState = .confirmWait → s.unsol.pState = .confirmWait ∧
      s'.unsol.seq.confirmNum = s.unsol.seq.confirmNum ∧
      s'.unsol.completedNull = s.unsol.completedNull) : Attributed s' := by
  refine h.of_less ?_ ?_ hlog hsol hunsol
  · rw [EventBuffer.WrittenSelected, hrecords]
    exact h.written_selected
  · rw [hrecords]
    exact fun r hr hwritten => ⟨r, hr, hwritten, rfl⟩

theorem initial (world : W) (now : Int) (events : EventBufferConfig) (database : DatabaseBuffers)
    (params : OutstationParams) :
    Attributed (OContext.initial world now events database params) := by
  constructor
  · intro r hr
    cases hr
  · intro h
    cases h
  · intro h
    cases h
  · intro h
    cases h

/-- A fragment of a READ is sent with the records that were written. -/
theorem sentRead {b : EventBuffer} {r : SentRead} {e : Effect}
    (hwrites : EventBuffer.Writes b r.eventBuffer r.fragment.events)
    (hfragment : e.fragment = some r.fragment) (huns : r.fragment.control.UNS = false)
    (hapart : s.unsol.pState = .confirmWait → s.unsol.completedNull = false) :
    Attributed ((s.sentRead r).note e) := by
  constructor
  · exact hwrites.written_selected
  · intro _ record hrecord hwritten
    have hmem := hwrites.events record hrecord hwritten
    refine ⟨r.fragment, ?_, huns, rfl⟩
    rw [OContext.note, fragmentOf_note, Effect.holds, hfragment]
    exact if_pos hmem
  · intro hwait hnull
    have hfalse : s.unsol.completedNull = true := hnull
    rw [hapart hwait] at hfalse
    cases hfalse
  · exact fun _ => hapart

/-- An unsolicited response is sent with the records that were written. -/
theorem sendUnsolFrom {b : EventBuffer} {e : Effect} {fragment : Fragment} (tx : TxBuffer)
    (hwrites : EventBuffer.Writes b s.eventBuffer fragment.events)
    (hfragment : e.fragment = some fragment) (huns : fragment.control.UNS = true)
    (hseq : fragment.control.SEQ = s.unsol.seq.num) (hsol : s.sol.pState = .idle) :
    Attributed ((s.sendUnsolFrom tx).note e) := by
  have hoverflow := hwrites.isOverflown
  unfold OContext.sendUnsolFrom startUnsolicitedConfirmTimer
  rw [startConfirmTimer_eq]
  constructor
  · exact hoverflow.written_selected
  · intro hwait
    rw [show s.sol.pState = .confirmWait from hwait] at hsol
    cases hsol
  · intro _ _ record hrecord hwritten
    have hmem := hoverflow.events record hrecord hwritten
    refine ⟨fragment, ?_, huns, hseq⟩
    rw [OContext.note, fragmentOf_note, Effect.holds, hfragment]
    exact if_pos hmem
  · intro hwait
    rw [show s.sol.pState = .confirmWait from hwait] at hsol
    cases hsol

end Attributed

/-! ## What a step clears -/

/-- A step keeps the written records attributed, and clears only those that are confirmed. -/
structure Accounts (s s' : OContext W) : Prop where
  attributed : Attributed s'
  clears : ClearsConfirmed s s'
  ids : s'.eventBuffer.ids.Sublist s.eventBuffer.ids
  nextId : s'.eventBuffer.nextId = s.eventBuffer.nextId

namespace Accounts

variable {s s' : OContext W}

/-- Nothing is cleared, written or sent. -/
theorem congr (h : Attributed s) (hrecords : s'.eventBuffer.records = s.eventBuffer.records)
    (hnext : s'.eventBuffer.nextId = s.eventBuffer.nextId)
    (hlog : ∀ id, fragmentOf id s'.log = fragmentOf id s.log)
    (hsol : s'.sol.pState = .confirmWait →
      s.sol.pState = .confirmWait ∧ s'.sol.seq.confirmNum = s.sol.seq.confirmNum)
    (hunsol : s'.unsol.pState = .confirmWait → s.unsol.pState = .confirmWait ∧
      s'.unsol.seq.confirmNum = s.unsol.seq.confirmNum ∧
      s'.unsol.completedNull = s.unsol.completedNull) : Accounts s s' := by
  have hids : s'.eventBuffer.ids = s.eventBuffer.ids := congrArg (List.map SOERecord.id) hrecords
  exact ⟨h.congr hrecords hlog hsol hunsol, .of_ids hids, hids ▸ List.Sublist.refl _, hnext⟩

/-- Records are written, and none is cleared. -/
theorem of_writes {events : List Nat} (h : Attributed s')
    (hwrites : EventBuffer.Writes s.eventBuffer s'.eventBuffer events) : Accounts s s' :=
  ⟨h, .of_ids hwrites.ids, hwrites.ids ▸ List.Sublist.refl _, hwrites.nextId⟩

/-- A change that no record, response or effect is affected by. -/
theorem same (h : Attributed s) (hbuffer : s'.eventBuffer = s.eventBuffer) (hlog : s'.log = s.log)
    (hsol : s'.sol.pState = s.sol.pState) (hseq : s'.sol.seq.confirmNum = s.sol.seq.confirmNum)
    (hunsol : s'.unsol = s.unsol) : Accounts s s' := by
  refine congr h ?_ ?_ ?_ ?_ ?_
  · rw [hbuffer]
  · rw [hbuffer]
  · intro id
    rw [hlog]
  · rw [hsol, hseq]
    exact fun hwait => ⟨hwait, rfl⟩
  · rw [hunsol]
    exact fun hwait => ⟨hwait, rfl, rfl⟩

/-- What comes before and after, and neither clears nor sends anything. -/
theorem trans_same {s'' : OContext W} (h : Accounts s s')
    (hbuffer : s''.eventBuffer = s'.eventBuffer)
    (hlog : s''.log = s'.log) (hsol : s''.sol = s'.sol) (hunsol : s''.unsol = s'.unsol) :
    Accounts s s'' := by
  obtain ⟨hattributed, hclears, hids, hnext⟩ := h
  refine ⟨(same hattributed hbuffer hlog (by rw [hsol]) (by rw [hsol]) hunsol).attributed, ?_, ?_,
    ?_⟩
  · unfold ClearsConfirmed at hclears ⊢
    rwa [hbuffer, hlog]
  · rwa [hbuffer]
  · rwa [hbuffer]

/-- The records that are written are cleared for the confirm of their fragment. -/
theorem takeConfirm {control : AppControlField}
    (hheld : ∀ r ∈ s.eventBuffer.records, r.written = true → s.HeldBy r control.UNS control.SEQ)
    (hids : s'.eventBuffer.ids = s.eventBuffer.clearWritten.ids) (more : List Effect)
    (hlog : s'.log = (s.takeConfirm control).log ++ more) : ClearsConfirmed s s' := by
  intro r hr hgone
  rw [hids] at hgone
  have hwritten := EventBuffer.written_of_cleared hr hgone
  refine ⟨.confirmed control (removedIds s.eventBuffer s.eventBuffer.clearWritten) :: more,
    control, _, ?_, List.mem_cons_self, ?_, hheld r hr hwritten⟩
  · rw [hlog]
    exact List.append_assoc _ _ _
  · rw [removedIds, List.mem_filter]
    refine ⟨List.mem_map_of_mem hr, ?_⟩
    rw [Bool.not_eq_true', ← Bool.not_eq_true, List.contains_iff_mem]
    exact hgone

/-- A request accounts for the records that it writes. -/
theorem takesRequest {header : APDUHeader} {objects : List UInt8} (h : Attributed s)
    (hcounted : s.eventBuffer.SelectionCounted) (ht : TakesRequest cb s header objects s') :
    Accounts s s' := by
  cases ht with
  | unsolicited huns => exact same h rfl rfl rfl rfl rfl
  | repeatedRead huns hrepeat hread => exact same h rfl rfl rfl rfl rfl
  | repeated huns hrepeat hread hsol =>
    exact congr h rfl rfl (fun id => fragmentOf_note _ _ _) (fun h => ⟨h, rfl⟩)
      fun h => ⟨h, rfl, rfl⟩
  | repeatedWaiting huns hrepeat hread hsol => exact same h rfl rfl rfl rfl rfl
  | abandons huns hnew hsol =>
    refine congr h rfl rfl (fun id => fragmentOf_note _ _ _) (fun hs => ?_) fun h => ⟨h, rfl, rfl⟩
    cases hs
  | defersRead huns hnew hread hsol hunsol => exact same h rfl rfl rfl rfl rfl
  | read huns hnew hread hsol hunsol =>
    obtain ⟨writer, tx, heq⟩ := @respondToReadRequest_sent W cb (s.withSeq header) header objects
    rw [heq _ _ rfl rfl]
    have hwrites := (writes_handleRead (s := (s.withSeq header).recorded header objects)
      h.written_selected hcounted objects writer).isOverflown
    have huns' := @uns_handleRead W ((s.withSeq header).recorded header objects) objects writer
    refine of_writes (.sentRead hwrites rfl huns' fun hwait => ?_) hwrites
    have hfalse : s.unsol.pState = .confirmWait := hwait
    rw [hunsol] at hfalse
    cases hfalse
  | nonRead huns hnew hread hsol =>
    obtain ⟨s₁, tx, hs₁, heq⟩ := @respondToNonReadRequest_eq W cb (s.withSeq header) header objects
    rw [heq]
    obtain ⟨world, staticIIN, control, database, mask, effects, rfl, -, -, heffects⟩ := hs₁
    refine congr h (EventBuffer.records_isOverflown _) (EventBuffer.nextId_isOverflown _)
      (fun id => ?_) (fun hs => ?_) fun h => ⟨h, rfl, rfl⟩
    · show fragmentOf id (s.log ++ effects ++ [_]) = _
      rw [List.append_assoc]
      refine fragmentOf_append id fun e he fragment hfragment => ?_
      rcases List.mem_append.mp he with hhandled | hresponse
      · rw [Effect.fragment_of_handling (heffects e hhandled)] at hfragment
        cases hfragment
      · rw [List.mem_singleton.mp hresponse] at hfragment
        cases hfragment
        rfl
    · cases hs

/-- A confirm clears the records of its fragment, and only these. -/
theorem takesConfirm {header : APDUHeader} (h : Attributed s)
    (ht : TakesConfirm cb s header s') : Accounts s s' := by
  cases ht with
  | ignoredSol huns hsol => exact same h rfl rfl rfl rfl rfl
  | ignoredUnsol huns hunsol => exact same h rfl rfl rfl rfl rfl
  | last huns hsol hseq hselection =>
    refine ⟨?_, ?_, s.eventBuffer.ids_clearWritten, rfl⟩
    · refine h.of_less ?_ ?_ (fun id => fragmentOf_note _ _ _) (fun hs => ?_)
        fun h => ⟨h, rfl, rfl⟩
      · exact fun r hr => h.written_selected r (EventBuffer.mem_clearWritten.mp hr).1
      · exact fun r hr hwritten => ⟨r, (EventBuffer.mem_clearWritten.mp hr).1, hwritten, rfl⟩
      · cases hs
    · have hheld := h.sol hsol
      rw [hseq, ← huns] at hheld
      exact takeConfirm hheld rfl [] (List.append_nil _).symm
  | more huns hsol hseq hselection =>
    obtain ⟨writer, tx, heq⟩ := @continueMultiFragResponse_sent W cb
      (s.takeConfirm header.control) (header.control.SEQ + 1)
    rw [heq _ _ rfl rfl]
    have hwrites := (writes_loadResponse (s := s.takeConfirm header.control)
      (EventBuffer.unwritten_clearWritten s.eventBuffer) writer).isOverflown
    refine ⟨?_, ?_, hwrites.ids ▸ s.eventBuffer.ids_clearWritten, hwrites.nextId⟩
    · exact .sentRead hwrites rfl (uns_loadResponse _ writer) (h.apart hsol)
    · have hheld := h.sol hsol
      rw [hseq, ← huns] at hheld
      exact takeConfirm hheld hwrites.ids [_] rfl
  | null huns hunsol hseq hnull =>
    refine congr h rfl rfl (fun _ => rfl) (fun h => ⟨h, rfl⟩) fun hs => ?_
    cases hs
  | events huns hunsol hseq hnull =>
    refine ⟨?_, ?_, s.eventBuffer.ids_clearWritten, rfl⟩
    · refine h.of_less ?_ ?_ (fun id => fragmentOf_note _ _ _) (fun h => ⟨h, rfl⟩) fun hs => ?_
      · exact fun r hr => h.written_selected r (EventBuffer.mem_clearWritten.mp hr).1
      · exact fun r hr hwritten => ⟨r, (EventBuffer.mem_clearWritten.mp hr).1, hwritten, rfl⟩
      · cases hs
    · have hheld : ∀ r ∈ s.eventBuffer.records, r.written = true →
          s.HeldBy r header.control.UNS header.control.SEQ := by
        rw [huns, ← hseq]
        exact h.unsol hunsol hnull
      exact takeConfirm hheld rfl [] (List.append_nil _).symm

theorem takesFragment (h : Attributed s) (hcounted : s.eventBuffer.SelectionCounted)
    (ht : TakesFragment cb s s') : Accounts s s' := by
  cases ht with
  | ignored => exact same h rfl rfl rfl rfl rfl
  | noAck world => exact same h rfl rfl rfl rfl rfl
  | deferred header objects htx =>
    unfold noteConfirm
    split
    · exact congr h rfl rfl (fun id => fragmentOf_note _ _ _) (fun h => ⟨h, rfl⟩)
        fun h => ⟨h, rfl, rfl⟩
    · exact same h rfl rfl rfl rfl rfl
  | confirm header htx hfunction hc =>
    have hlog : ∀ id, fragmentOf id (s.note (.confirmReceived header.control)).log =
        fragmentOf id s.log := fun id => fragmentOf_note _ _ _
    have hnoted : Attributed (s.note (.confirmReceived header.control)) :=
      h.congr rfl hlog (fun h => ⟨h, rfl⟩) fun h => ⟨h, rfl, rfl⟩
    obtain ⟨hattributed, hclears, hids, hnext⟩ := takesConfirm hnoted hc
    refine ⟨hattributed, fun r hr hgone => ?_, hids, hnext⟩
    obtain ⟨effects, control, cleared, heffects, hconfirmed, hcleared, hheld⟩ := hclears r hr hgone
    refine ⟨.confirmReceived header.control :: effects, control, cleared, ?_,
      List.mem_cons_of_mem _ hconfirmed, hcleared, ?_⟩
    · rw [heffects, OContext.note, List.append_assoc, List.singleton_append]
    · unfold HeldBy at hheld ⊢
      rwa [hlog] at hheld
  | request header objects htx hfunction hr => exact takesRequest h hcounted hr

theorem takesDeferred (h : Attributed s) (hcounted : s.eventBuffer.SelectionCounted)
    (ht : TakesDeferred cb s s') : Accounts s s' := by
  cases ht with
  | nothing _ => exact same h rfl rfl rfl rfl rfl
  | waits hset hread hunsol => exact same h rfl rfl rfl rfl rfl
  | confirm hcan hset hfunction hc => exact (takesConfirm h hc).trans_same rfl rfl rfl rfl
  | request hcan hset hfunction hread hr =>
    exact (takesRequest h hcounted hr).trans_same rfl rfl rfl rfl

theorem expires (h : Attributed s) (he : Expires s s') : Accounts s s' := by
  cases he with
  | inactive htimer => exact same h rfl rfl rfl rfl rfl
  | solicited timeout htimer hsol =>
    refine congr h rfl rfl (fun id => fragmentOf_note _ _ _) (fun hs => ?_) fun h => ⟨h, rfl, rfl⟩
    cases hs
  | unsolicited timeout htimer hunsol =>
    refine ⟨h.of_less h.written_selected.unselect ?_ (fun _ => rfl) (fun h => ⟨h, rfl⟩) ?_,
      .of_ids s.eventBuffer.ids_unselect, s.eventBuffer.ids_unselect ▸ List.Sublist.refl _, rfl⟩
    · intro r hr hwritten
      rcases EventBuffer.mem_unselectRecords hr with hmem | ⟨r', -, rfl⟩
      · exact ⟨r, hmem, hwritten, rfl⟩
      · cases hwritten
    · intro hs
      cases hs
  | unexpected timer htimer hsol hunsol => exact same h rfl rfl rfl rfl rfl

end Accounts

/-- An unsolicited response with events is about to be sent. -/
def willSendEvents (s : OContext W) : Bool :=
  s.canSendUnsolicited && s.unsol.completedNull && s.hasUnsolicitedEvents

/-- The action checks for events to be reported unsolicited. -/
def Action.checksUnsolicited : Action W → Bool
  | .checkForUnsolicited => true
  | _ => false

/-- The counter of the selected records has counted all of them, and no unsolicited response with
events is sent while the confirm of a solicited one is awaited. -/
structure KeepsApart (s : OContext W) (a : Action W) : Prop where
  counted : s.eventBuffer.SelectionCounted
  apart : a.checksUnsolicited = true → s.willSendEvents = true → s.sol.pState = .idle

namespace Accounts

variable {s s' : OContext W}

/-- An unsolicited response accounts for its records when no other fragment holds them. -/
theorem sendsUnsolicited (h : Attributed s) (hok : s.KeepsApart .checkForUnsolicited)
    (hs : SendsUnsolicited cb s s') : Accounts s s' := by
  have hcounted := hok.counted
  cases hs with
  | nothing hnot => exact same h rfl rfl rfl rfl rfl
  | null tx hcan hnull =>
    unfold sendUnsolFrom startUnsolicitedConfirmTimer
    rw [startConfirmTimer_eq]
    have hids : s.eventBuffer.isOverflown.1.ids = s.eventBuffer.ids :=
      congrArg (List.map SOERecord.id) s.eventBuffer.records_isOverflown
    refine ⟨?_, .of_ids hids, hids ▸ List.Sublist.refl _, s.eventBuffer.nextId_isOverflown⟩
    · constructor
      · rw [EventBuffer.WrittenSelected]
        show ∀ r ∈ s.eventBuffer.isOverflown.1.records, _
        rw [EventBuffer.records_isOverflown]
        exact h.written_selected
      · intro hwait r hr hwritten
        change r ∈ s.eventBuffer.isOverflown.1.records at hr
        rw [EventBuffer.records_isOverflown] at hr
        obtain ⟨fragment, hfragment, huns, hseq⟩ := h.sol hwait r hr hwritten
        refine ⟨fragment, ?_, huns, hseq⟩
        rw [← hfragment]
        exact fragmentOf_note _ _ _
      · intro _ hfalse
        rw [show s.unsol.completedNull = true from hfalse] at hnull
        cases hnull
      · exact fun _ _ => hnull
  | events writer tx hcan hnull hevents =>
    have hsol := hok.apart rfl (by rw [willSendEvents, hcan, hnull, hevents]; rfl)
    have hwrites := writes_loadUnsolicited h.written_selected hcounted writer
    have hattributed := Attributed.sendUnsolFrom (s := (s.loadUnsolicited writer).1) tx hwrites
      (e := .unsolicited ⟨unsolControl s.unsol.seq.num, (s.loadUnsolicited writer).2.2,
        tx.getLastResponse⟩) rfl rfl rfl hsol
    refine @of_writes W s _ (s.loadUnsolicited writer).2.2 hattributed ?_
    have hbuffer := (s.loadUnsolicited writer).1.eventBuffer_sendUnsolFrom tx
    rw [note, hbuffer]
    exact hwrites.isOverflown

end Accounts

/-! ## No event is lost -/

/-- A record leaves the buffer only by being discarded in an update, as the oldest of its type when
there is no room for another one, or for the confirm of the fragment it was last written into. -/
def LosesNoEvent (cb : Callbacks W) (s : OContext W) (a : Action W) : Prop :=
  ∀ r ∈ s.eventBuffer.records, r.id ∉ (s.perform cb a).eventBuffer.ids →
    ((∃ u, a = .updatePoint u) ∧ s.eventBuffer.IsDiscarded r) ∨
    ∃ effects control cleared, (s.perform cb a).log = s.log ++ effects ∧
      .confirmed control cleared ∈ effects ∧ r.id ∈ cleared ∧
      s.HeldBy r control.UNS control.SEQ

/-- The records of the buffer are told apart by their identities, and those that are written are in
the response whose confirm is awaited. -/
structure Traced (s : OContext W) : Prop where
  identified : s.eventBuffer.Identified
  attributed : Attributed s

namespace Traced

variable {s : OContext W}

/-- An update discards only the oldest event of a type that is full. -/
theorem updatePoint (h : Traced s) (u : DatabaseBuffers.PointUpdate) :
    Traced (s.updatePoint u) ∧ LosesNoEvent cb s (.updatePoint u) := by
  unfold LosesNoEvent
  simp only [perform]
  unfold OContext.updatePoint
  split
  next database evt _ _ =>
    constructor
    · refine ⟨h.identified.updateAny evt, h.attributed.of_less ?_ ?_ (fun id => ?_)
        (fun h => ⟨h, rfl⟩) fun h => ⟨h, rfl, rfl⟩⟩
      · intro r hr hwritten
        rcases EventBuffer.mem_updateAny hr with hold | rfl
        · exact h.attributed.written_selected r hold hwritten
        · rw [SOERecord.written_ofUpdate] at hwritten
          cases hwritten
      · intro r hr hwritten
        rcases EventBuffer.mem_updateAny hr with hold | rfl
        · exact ⟨r, hold, hwritten, rfl⟩
        · rw [SOERecord.written_ofUpdate] at hwritten
          cases hwritten
      · refine fragmentOf_append id fun e he fragment hfragment => ?_
        obtain ⟨discarded, -, rfl⟩ := List.mem_map.mp he
        cases hfragment
    · exact fun r hr hgone => .inl ⟨⟨u, rfl⟩, EventBuffer.isDiscarded_of_updateAny hr hgone⟩
  next database _ _ =>
    refine ⟨⟨h.identified, h.attributed.congr rfl (fun _ => rfl) (fun h => ⟨h, rfl⟩)
      fun h => ⟨h, rfl, rfl⟩⟩, fun r hr hgone => ?_⟩
    exact absurd (List.mem_map_of_mem hr) hgone

/-- A step that accounts for what it clears keeps the records traced. -/
theorem of_accounts {s' : OContext W} (h : Traced s) (ha : Accounts s s') : Traced s' :=
  ⟨h.identified.sublist ha.ids ha.nextId, ha.attributed⟩

/-- When the connection is lost the records are unselected, and none is lost. -/
theorem onLowerLayerDown (h : Traced s) : Accounts s s.onLowerLayerDown := by
  unfold OContext.onLowerLayerDown
  split
  · refine ⟨h.attributed.of_less h.attributed.written_selected.unselect ?_
      (fun id => fragmentOf_note _ _ _) (fun hs => ?_) (fun hs => ?_),
      .of_ids s.eventBuffer.ids_unselect, s.eventBuffer.ids_unselect ▸ List.Sublist.refl _, rfl⟩
    · intro r hr hwritten
      rcases EventBuffer.mem_unselectRecords hr with hmem | ⟨r', -, rfl⟩
      · exact ⟨r, hmem, hwritten, rfl⟩
      · cases hwritten
    · cases hs
    · cases hs
  · exact .same h.attributed rfl rfl rfl rfl rfl

/-- Every action but an update accounts for what it clears. -/
theorem accounts (h : Traced s) (a : Action W) (hok : s.KeepsApart a)
    (hupdate : ∀ u, a ≠ .updatePoint u) : Accounts s (s.perform cb a) := by
  have hcounted := hok.counted
  have h' := h.attributed
  cases a with
  | goOffline => exact h.onLowerLayerDown
  | transmitted =>
    have htransmitted : Accounts s { s with isTransmitting := false } :=
      .same h' rfl rfl rfl rfl rfl
    obtain ⟨hattributed, hclears, hids, hnext⟩ := Accounts.takesDeferred htransmitted.attributed
      hcounted (@OContext.takesDeferred W cb _)
    exact ⟨hattributed, hclears, hids, hnext⟩
  | parse fragment => exact Accounts.takesFragment h' hcounted (s.takesFragment fragment)
  | expire => exact Accounts.expires h' s.expires
  | updatePoint u => exact absurd rfl (hupdate u)
  | checkForDeferredRequest => exact Accounts.takesDeferred h' hcounted s.takesDeferred
  | checkForUnsolicited => exact Accounts.sendsUnsolicited h' hok s.sendsUnsolicited
  | goOnline => exact .same h' rfl rfl rfl rfl rfl
  | setRestartIIN => exact .same h' rfl rfl rfl rfl rfl
  | elapse milliseconds => exact .same h' rfl rfl rfl rfl rfl
  | surroundings world => exact .same h' rfl rfl rfl rfl rfl

theorem perform (h : Traced s) (a : Action W) (hok : s.KeepsApart a) :
    Traced (s.perform cb a) ∧ LosesNoEvent cb s a := by
  by_cases hupdate : ∃ u, a = .updatePoint u
  · obtain ⟨u, rfl⟩ := hupdate
    exact h.updatePoint u
  · have haccounts := @accounts W cb s h a hok fun u hu => hupdate ⟨u, hu⟩
    exact ⟨h.of_accounts haccounts, fun r hr hgone => .inr (haccounts.clears r hr hgone)⟩

end Traced

/-- No action of a run loses an event, when no unsolicited response with events is sent while the
confirm of a solicited one is awaited, and the selected records are counted. -/
theorem no_event_lost (world : W) (now : Int) (config : EventBufferConfig)
    (database : DatabaseBuffers) (params : OutstationParams) (events : List (Event W))
    (hapart : ActsThroughout cb KeepsApart (initial world now config database params) events) :
    Always (step cb) (fun s => s.eventBuffer.Identified)
        (initial world now config database params) events ∧
      ActsThroughout cb (LosesNoEvent cb) (initial world now config database params) events := by
  have hinitial : Traced (initial world now config database params) :=
    ⟨.initial config, .initial world now config database params⟩
  have hperform : ∀ (s : OContext W) a, Traced s → s.KeepsApart a → Traced (s.perform cb a) :=
    fun _ a hs hok => (hs.perform a hok).1
  constructor
  · exact (always_step_invariant hperform hinitial hapart).imp fun _ hs => hs.identified
  · exact hapart.imp hperform (fun _ a hs hok => (hs.perform a hok).2) hinitial

instance (s : OContext W) (a : Action W) : Decidable (s.KeepsApart a) :=
  decidable_of_iff (s.eventBuffer.records.countP SOERecord.selected ≤
      s.eventBuffer.selectedCounts.total.toNat ∧
    (a.checksUnsolicited = true → s.willSendEvents = true → s.sol.pState = .idle))
    ⟨fun h => ⟨h.1, h.2⟩, fun h => ⟨h.counted, h.apart⟩⟩

/-- An event is reported unsolicited and confirmed. -/
def reporting : List (Event Nat) :=
  [.lowerLayerUp, .sendResult true, .receive [0xD0, 0x00], .updates [counts 1 7], .sendResult true,
    .receive [0xD1, 0x00]]

theorem no_event_lost_reporting :
    Always (step countingCallbacks) (fun s => s.eventBuffer.Identified) (twenty smallParams)
        reporting ∧
      ActsThroughout countingCallbacks (LosesNoEvent countingCallbacks) (twenty smallParams)
        reporting :=
  no_event_lost 0 0 (.allTypes 4) (.ofType .counter 20) smallParams reporting (by decide +kernel)

/-- A counter has changed and is reported before the first fragment of a READ is confirmed. -/
def reportedWhileReading : List (Event Nat) :=
  readingAll ++ [.updates [counts 1 7], .sendResult true]

/-- The confirm of that fragment clears the event, which was never in it. -/
theorem not_no_event_lost :
    ¬ ∀ events, ActsThroughout countingCallbacks (LosesNoEvent countingCallbacks)
      (twenty smallParams) events := by
  intro h
  have hloses := (h (reportedWhileReading ++ [Event.receive [0xC3, 0x00]])).parse
    (by decide +kernel)
  change LosesNoEvent countingCallbacks (twentyAfter smallParams reportedWhileReading)
    (.parse [0xC3, 0x00]) at hloses
  have hids : (twentyAfter smallParams reportedWhileReading).eventBuffer.ids = [0] := by
    decide +kernel
  obtain ⟨r, hr, hid⟩ := List.mem_map.mp (hids ▸ List.mem_singleton_self 0)
  have hgone : r.id ∉ ((twentyAfter smallParams reportedWhileReading).perform countingCallbacks
      (.parse [0xC3, 0x00])).eventBuffer.ids := by
    rw [hid]
    decide +kernel
  rcases hloses r hr hgone with
    ⟨⟨u, hu⟩, -⟩ | ⟨effects, control, cleared, hlog, hconfirmed, -, hheld⟩
  · cases hu
  · -- the confirm is a solicited one, and the event was reported unsolicited
    have hsolicited : (((twentyAfter smallParams reportedWhileReading).perform countingCallbacks
        (.parse [0xC3, 0x00])).log.drop
          (twentyAfter smallParams reportedWhileReading).log.length).all Effect.isSolicited =
        true := by decide +kernel
    rw [hlog, List.drop_left, List.all_eq_true] at hsolicited
    have hconfirm := hsolicited _ hconfirmed
    obtain ⟨fragment, hfragment, huns, -⟩ := hheld
    have hreported : (fragmentOf 0 (twentyAfter smallParams reportedWhileReading).log).map
        (fun fragment => fragment.control.UNS) = some true := by decide +kernel
    rw [hid] at hfragment
    rw [hfragment, Option.map_some, huns, Option.some.injEq] at hreported
    rw [Effect.isSolicited, hreported] at hconfirm
    cases hconfirm

end OContext
end Outstation
end Dnp3
