import Dnp3.Outstation.OutstationRuns

/-!
# What an outstation does with a fragment

A request that is taken up is ignored, answered again, put off, or executed, and a confirm ends a
wait or is ignored.  Here are all the cases, each with what the outstation knows in it and with the
state after it; proofs about requests go by these cases.

For each of the functions of the source that branch over the state there is a relation with one
constructor for each way through it: `TakesRequest`, `TakesConfirm`, `TakesFragment`,
`TakesDeferred`, `Expires` and `SendsUnsolicited`.  A constructor has the conditions of its way and
the state at its end, and a theorem says that the function is always in one of the cases.  So a
property of all runs is proved case by case, without unfolding a function of the outstation, and an
edit of such a function is an edit of its cases.
-/

namespace Dnp3
namespace Outstation

open App Library

namespace OContext

variable {W : Type} {cb : Callbacks W}

/-! ## Sending a response -/

/-- The overflow flag may be cleared when the indications of a response are collected. -/
def checkOverflow (s : OContext W) : OContext W :=
  { s with eventBuffer := s.eventBuffer.isOverflown.1 }

/-- The response in a buffer is handed to the lower layer. -/
def sendFrom (s : OContext W) (tx : TxBuffer) : OContext W :=
  { s.checkOverflow with sol := { s.sol with tx := tx }, isTransmitting := true }

theorem getResponseIIN_fst (s : OContext W) : (s.getResponseIIN cb).1 = s.checkOverflow := rfl

/-- A request is recorded as the last one that was processed. -/
def recorded (s : OContext W) (header : APDUHeader) (objects : List UInt8) : OContext W :=
  { s with history := s.history.recordLastProcessedRequest header objects }

/-- A request that is no READ is recorded, goes to its handler, and is answered. -/
theorem respondToNonReadRequest_handled (s : OContext W) (header : APDUHeader)
    (objects : List UInt8) :
    ∃ writer tx, s.respondToNonReadRequest cb header objects =
      (((((s.recorded header objects).handleNonReadResponse cb header objects writer).1).sendFrom
        tx).note (.responded header objects
          { control := .request header.control.SEQ, events := [], bytes := tx.getLastResponse }),
        .idle) :=
  ⟨_, _, rfl⟩

/-- What all proofs but those about handlers need of the answer. -/
theorem respondToNonReadRequest_eq (s : OContext W) (header : APDUHeader) (objects : List UInt8) :
    ∃ s₁ tx,
      Handled (s.recorded header objects) s₁ ∧
      s.respondToNonReadRequest cb header objects =
        ((s₁.sendFrom tx).note (.responded header objects
          { control := .request header.control.SEQ, events := [], bytes := tx.getLastResponse }),
          .idle) := by
  obtain ⟨writer, tx, heq⟩ := @respondToNonReadRequest_handled W cb s header objects
  exact ⟨_, tx, handled_handleNonReadResponse _ header objects writer, heq⟩

/-- A READ is recorded, selects, loads, and is answered. -/
theorem respondToReadRequest_eq (s : OContext W) (header : APDUHeader) (objects : List UInt8) :
    ∃ writer tx, ∀ r,
      r = (s.recorded header objects).handleRead objects writer →
      s.respondToReadRequest cb header objects =
        (((r.1.setConfirmNum header.control.SEQ).sendFrom tx).note (.responded header objects
          { control := { r.2.2.2.1 with SEQ := header.control.SEQ }
            events := r.2.2.2.2
            bytes := tx.getLastResponse })).awaitConfirm
          { r.2.2.2.1 with SEQ := header.control.SEQ } := by
  refine ⟨(s.sol.tx.start.setFunction .response).getWriter, ?_, ?_⟩
  rotate_left
  · rintro r rfl
    unfold recorded
    rfl

/-- The next fragment is loaded and sent. -/
theorem continueMultiFragResponse_eq (s : OContext W) (seq : AppSeqNum) :
    ∃ writer tx, ∀ r, r = s.loadResponse writer →
      s.continueMultiFragResponse cb seq =
        (((r.1.setConfirmNum seq).sendFrom tx).note (.continued
          { control := { r.2.2.1 with SEQ := seq }
            events := r.2.2.2
            bytes := tx.getLastResponse })).awaitConfirm { r.2.2.1 with SEQ := seq } := by
  refine ⟨(s.sol.tx.start.setFunction .response).getWriter, ?_, ?_⟩
  rotate_left
  · rintro r rfl
    rfl

/-- Loading a response changes the databases and the count of fragments. -/
theorem loadResponse_state (s : OContext W) (writer : HeaderWriter) :
    ∃ eventBuffer database fragmentCount, (s.loadResponse writer).1 =
      { s with eventBuffer := eventBuffer, database := database,
               fragmentCount := fragmentCount } := by
  unfold loadResponse
  dsimp only
  split <;> exact ⟨_, _, _, rfl⟩

theorem handleRead_state (s : OContext W) (objects : List UInt8) (writer : HeaderWriter) :
    ∃ eventBuffer database fragmentCount, (s.handleRead objects writer).1 =
      { s with eventBuffer := eventBuffer, database := database,
               fragmentCount := fragmentCount } := by
  unfold handleRead
  dsimp only
  split
  · exact loadResponse_state _ _
  · exact ⟨_, _, _, rfl⟩

/-- A running timer stays as it is. -/
theorem startConfirmTimer_eq (s : OContext W) (timeout : Int) (action : ConfirmAction) :
    s.startConfirmTimer timeout action =
      { s with confirmTimer := some (s.confirmTimer.getD ⟨timeout, action⟩) } := by
  unfold startConfirmTimer
  split
  next timer htimer =>
    rw [htimer, Option.getD_some, ← htimer]
  next htimer =>
    rw [htimer]
    rfl

/-- The confirm timer after a fragment of a READ was sent. -/
def timerAwaiting (s : OContext W) (awaited : Bool) : Option ConfirmTimer :=
  if awaited then some (s.confirmTimer.getD ⟨s.params.unsolConfirmTimeout, .solicited⟩)
  else s.confirmTimer

/-- Only the confirm timer may be started. -/
theorem awaitConfirm_state (s : OContext W) (control : AppControlField) :
    (s.awaitConfirm control).1 = { s with confirmTimer := s.timerAwaiting control.CON } := by
  unfold awaitConfirm timerAwaiting
  cases control.CON with
  | true => exact s.startConfirmTimer_eq _ _
  | false => rfl

/-- A fragment of the response to a READ is sent, and perhaps its confirm is awaited. -/
structure SentRead where
  eventBuffer : EventBuffer
  database : DatabaseBuffers
  fragmentCount : UInt16
  confirmTimer : Option ConfirmTimer
  tx : TxBuffer
  fragment : Fragment

/-- The state after a fragment of the response to a READ. -/
def sentRead (s : OContext W) (r : SentRead) : OContext W :=
  { s with
    eventBuffer := r.eventBuffer
    database := r.database
    fragmentCount := r.fragmentCount
    confirmTimer := r.confirmTimer
    isTransmitting := true
    sol :=
      { pState := if r.fragment.control.CON then .confirmWait else .idle
        seq := { s.sol.seq with confirmNum := r.fragment.control.SEQ }
        tx := r.tx } }

theorem awaitConfirm_snd (s : OContext W) (control : AppControlField) :
    (s.awaitConfirm control).2 = if control.CON then .confirmWait else .idle := by
  unfold awaitConfirm
  split <;> rfl

/-- What is sent of a response that was loaded. -/
def SentRead.ofLoad (s loaded : OContext W) (control : AppControlField) (events : List Nat)
    (tx : TxBuffer) : SentRead where
  eventBuffer := loaded.eventBuffer.isOverflown.1
  database := loaded.database
  fragmentCount := loaded.fragmentCount
  confirmTimer := s.timerAwaiting control.CON
  tx := tx
  fragment := { control := control, events := events, bytes := tx.getLastResponse }

/-- A READ is answered by what it loads. -/
theorem respondToReadRequest_sent (s : OContext W) (header : APDUHeader) (objects : List UInt8) :
    ∃ writer tx, ∀ r loaded,
      r = (s.recorded header objects).handleRead objects writer →
      loaded = SentRead.ofLoad s r.1 { r.2.2.2.1 with SEQ := header.control.SEQ } r.2.2.2.2 tx →
      (s.respondToReadRequest cb header objects).1.setSolState
          (s.respondToReadRequest cb header objects).2 =
        ((s.recorded header objects).sentRead loaded).note
          (.responded header objects loaded.fragment) := by
  obtain ⟨writer, tx, heq⟩ := @respondToReadRequest_eq W cb s header objects
  refine ⟨writer, tx, ?_⟩
  rintro r _ hr rfl
  obtain ⟨eventBuffer, database, fragmentCount, hstate⟩ :=
    handleRead_state (s.recorded header objects) objects writer
  rw [← hr] at hstate
  obtain ⟨s₁, writer', iin, control, events⟩ := r
  cases hstate
  rw [heq _ hr, awaitConfirm_snd, awaitConfirm_state]
  rfl

/-- The next fragment is what is loaded next. -/
theorem continueMultiFragResponse_sent (s : OContext W) (seq : AppSeqNum) :
    ∃ writer tx, ∀ r loaded, r = s.loadResponse writer →
      loaded = SentRead.ofLoad s r.1 { r.2.2.1 with SEQ := seq } r.2.2.2 tx →
      (s.continueMultiFragResponse cb seq).1.setSolState (s.continueMultiFragResponse cb seq).2 =
        (s.sentRead loaded).note (.continued loaded.fragment) := by
  obtain ⟨writer, tx, heq⟩ := @continueMultiFragResponse_eq W cb s seq
  refine ⟨writer, tx, ?_⟩
  rintro r _ hr rfl
  obtain ⟨eventBuffer, database, fragmentCount, hstate⟩ := loadResponse_state s writer
  rw [← hr] at hstate
  obtain ⟨s₁, writer', control, events⟩ := r
  cases hstate
  rw [heq _ hr, awaitConfirm_snd, awaitConfirm_state]
  rfl

/-- What all proofs but those about fragments need of the answer to a READ. -/
theorem respondToReadRequest_state (s : OContext W) (header : APDUHeader)
    (objects : List UInt8) :
    ∃ r : SentRead, r.fragment.bytes = r.tx.getLastResponse ∧
      r.fragment.control.SEQ = header.control.SEQ ∧
      r.confirmTimer = s.timerAwaiting r.fragment.control.CON ∧
      (s.respondToReadRequest cb header objects).1.setSolState
          (s.respondToReadRequest cb header objects).2 =
        ((s.recorded header objects).sentRead r).note
          (.responded header objects r.fragment) := by
  obtain ⟨writer, tx, heq⟩ := @respondToReadRequest_sent W cb s header objects
  exact ⟨_, rfl, rfl, rfl, heq _ _ rfl rfl⟩

theorem continueMultiFragResponse_state (s : OContext W) (seq : AppSeqNum) :
    ∃ r : SentRead, r.fragment.bytes = r.tx.getLastResponse ∧ r.fragment.control.SEQ = seq ∧
      r.confirmTimer = s.timerAwaiting r.fragment.control.CON ∧
      (s.continueMultiFragResponse cb seq).1.setSolState (s.continueMultiFragResponse cb seq).2 =
        (s.sentRead r).note (.continued r.fragment) := by
  obtain ⟨writer, tx, heq⟩ := @continueMultiFragResponse_sent W cb s seq
  exact ⟨_, rfl, rfl, rfl, heq _ _ rfl rfl⟩

/-- An unsolicited response in a buffer is handed to the lower layer. -/
def sendUnsolFrom (s : OContext W) (tx : TxBuffer) : OContext W :=
  { s.checkOverflow.startUnsolicitedConfirmTimer with
    unsol := { completedNull := s.unsol.completedNull, pState := .confirmWait, tx := tx,
               seq := { confirmNum := s.unsol.seq.num, num := s.unsol.seq.num + 1 } }
    isTransmitting := true }

theorem eventBuffer_sendUnsolFrom (s : OContext W) (tx : TxBuffer) :
    (s.sendUnsolFrom tx).eventBuffer = s.eventBuffer.isOverflown.1 := by
  unfold sendUnsolFrom startUnsolicitedConfirmTimer
  rw [startConfirmTimer_eq]
  rfl

/-- An unsolicited response is sent, and noted with its records. -/
theorem sendUnsolicited_eq (s : OContext W) (response : APDUResponse) (events : List Nat) :
    ∃ tx, s.sendUnsolicited cb response events =
      (s.sendUnsolFrom tx).note (.unsolicited
        { control := unsolControl s.unsol.seq.num, events := events,
          bytes := tx.getLastResponse }) := by
  refine ⟨?_, ?_⟩
  rotate_left
  · unfold sendUnsolicited sendUnsolFrom startUnsolicitedConfirmTimer startConfirmTimer
    dsimp only [getResponseIIN_fst]
    cases htimer : s.checkOverflow.confirmTimer with
    | none => rfl
    | some timer => rfl

/-! ## A request -/

/-- The sequence number of a new request is remembered. -/
def withSeq (s : OContext W) (header : APDUHeader) : OContext W :=
  { s with sol := { s.sol with seq := { s.sol.seq with num := header.control.SEQ } } }

/-- What becomes of a request that is taken up. -/
inductive TakesRequest (cb : Callbacks W) (s : OContext W) (header : APDUHeader)
    (objects : List UInt8) : OContext W → Prop where
  | unsolicited (huns : header.control.UNS = true) : TakesRequest cb s header objects s
  | repeatedRead (huns : header.control.UNS = false) (hrepeat : s.isRepeat header objects = true)
      (hread : header.function = .read) : TakesRequest cb s header objects s
  | repeated (huns : header.control.UNS = false) (hrepeat : s.isRepeat header objects = true)
      (hread : header.function ≠ .read) (hsol : s.sol.pState = .idle) :
      TakesRequest cb s header objects
        (s.beginTx.note (.repeated header objects s.sol.tx.getLastResponse))
  | repeatedWaiting (huns : header.control.UNS = false)
      (hrepeat : s.isRepeat header objects = true) (hread : header.function ≠ .read)
      (hsol : s.sol.pState = .confirmWait) :
      TakesRequest cb s header objects (s.defer header objects)
  | abandons (huns : header.control.UNS = false) (hnew : s.isRepeat header objects = false)
      (hsol : s.sol.pState = .confirmWait) :
      TakesRequest cb s header objects
        ((((s.withSeq header).defer header objects).cancelConfirmTimer.note
          .abandoned).setSolState .idle)
  | defersRead (huns : header.control.UNS = false) (hnew : s.isRepeat header objects = false)
      (hread : header.function = .read) (hsol : s.sol.pState = .idle)
      (hunsol : s.unsol.pState = .confirmWait) :
      TakesRequest cb s header objects ((s.withSeq header).defer header objects)
  | read (huns : header.control.UNS = false) (hnew : s.isRepeat header objects = false)
      (hread : header.function = .read) (hsol : s.sol.pState = .idle)
      (hunsol : s.unsol.pState = .idle) :
      TakesRequest cb s header objects
        (((s.withSeq header).respondToReadRequest cb header objects).1.setSolState
          ((s.withSeq header).respondToReadRequest cb header objects).2)
  | nonRead (huns : header.control.UNS = false) (hnew : s.isRepeat header objects = false)
      (hread : header.function ≠ .read) (hsol : s.sol.pState = .idle) :
      TakesRequest cb s header objects
        (((s.withSeq header).respondToNonReadRequest cb header objects).1.setSolState .idle)

theorem setSolState_self {s : OContext W} {pState : SolicitedState} (h : s.sol.pState = pState) :
    s.setSolState pState = s := by
  rw [← h]
  rfl

theorem unsol_isIdle (s : OContext W) : s.unsol.isIdle = true ↔ s.unsol.pState = .idle := by
  rw [OutstationUnsolState.isIdle, beq_iff_eq]

/-- A request is taken up in one of these ways. -/
theorem takesRequest (s : OContext W) (header : APDUHeader) (objects : List UInt8) :
    TakesRequest cb s header objects (s.processRequest cb header objects) := by
  unfold processRequest
  split
  next huns => exact .unsolicited huns
  next huns =>
    rw [Bool.not_eq_true] at huns
    unfold onReceiveSolRequest
    dsimp only
    cases hrepeat : s.isRepeat header objects with
    | true =>
      rw [if_pos rfl]
      by_cases hread : header.function = .read
      · rw [if_pos hread]
        exact .repeatedRead huns hrepeat hread
      · rw [if_neg hread, onRepeatNonReadRequest]
        cases hsol : s.sol.pState with
        | idle =>
          have hself : (s.beginTx.note
              (.repeated header objects s.sol.tx.getLastResponse)).setSolState .idle =
              s.beginTx.note (.repeated header objects s.sol.tx.getLastResponse) :=
            setSolState_self hsol
          dsimp only
          rw [hself]
          exact .repeated huns hrepeat hread hsol
        | confirmWait =>
          have hself : (s.defer header objects).setSolState .confirmWait =
              s.defer header objects := setSolState_self hsol
          dsimp only
          rw [hself]
          exact .repeatedWaiting huns hrepeat hread hsol
    | false =>
      rw [if_neg Bool.false_ne_true, processNewRequest]
      show TakesRequest cb s header objects
        ((if header.function = .read then (s.withSeq header).onNewReadRequest cb header objects
          else (s.withSeq header).onNewNonReadRequest cb header objects).1.setSolState
            (if header.function = .read then (s.withSeq header).onNewReadRequest cb header objects
              else (s.withSeq header).onNewNonReadRequest cb header objects).2)
      by_cases hread : header.function = .read
      · rw [if_pos hread, onNewReadRequest,
          show (s.withSeq header).sol.pState = s.sol.pState from rfl]
        cases hsol : s.sol.pState with
        | idle =>
          dsimp only
          by_cases hunsol : (s.withSeq header).unsol.isIdle = true
          · rw [if_pos hunsol]
            exact .read huns hrepeat hread hsol ((unsol_isIdle s).mp hunsol)
          · rw [if_neg hunsol]
            have hself : ((s.withSeq header).defer header objects).setSolState .idle =
                (s.withSeq header).defer header objects := setSolState_self hsol
            rw [hself]
            refine .defersRead huns hrepeat hread hsol ?_
            cases hstate : s.unsol.pState with
            | idle => exact absurd ((unsol_isIdle s).mpr hstate) hunsol
            | confirmWait => rfl
        | confirmWait => exact .abandons huns hrepeat hsol
      · rw [if_neg hread, onNewNonReadRequest,
          show (s.withSeq header).sol.pState = s.sol.pState from rfl]
        cases hsol : s.sol.pState with
        | idle => exact .nonRead huns hrepeat hread hsol
        | confirmWait => exact .abandons huns hrepeat hsol

/-! ## A confirm -/

/-- The records that were written are cleared for a confirm, and the timer is stopped. -/
def takeConfirm (s : OContext W) (control : AppControlField) : OContext W :=
  s.cancelConfirmTimer.clearWritten control

/-- What a confirm does. -/
inductive TakesConfirm (cb : Callbacks W) (s : OContext W) (header : APDUHeader) :
    OContext W → Prop where
  | ignoredSol (huns : header.control.UNS = false)
      (hsol : s.sol.pState = .confirmWait → s.sol.seq.confirmNum ≠ header.control.SEQ) :
      TakesConfirm cb s header s
  | ignoredUnsol (huns : header.control.UNS = true)
      (hunsol : s.unsol.pState = .confirmWait → s.unsol.seq.confirmNum ≠ header.control.SEQ) :
      TakesConfirm cb s header s
  | last (huns : header.control.UNS = false) (hsol : s.sol.pState = .confirmWait)
      (hseq : s.sol.seq.confirmNum = header.control.SEQ)
      (hselection : (s.takeConfirm header.control).hasSelection = false) :
      TakesConfirm cb s header ((s.takeConfirm header.control).setSolState .idle)
  | more (huns : header.control.UNS = false) (hsol : s.sol.pState = .confirmWait)
      (hseq : s.sol.seq.confirmNum = header.control.SEQ)
      (hselection : (s.takeConfirm header.control).hasSelection = true) :
      TakesConfirm cb s header
        (((s.takeConfirm header.control).continueMultiFragResponse cb
          (header.control.SEQ + 1)).1.setSolState
          ((s.takeConfirm header.control).continueMultiFragResponse cb
            (header.control.SEQ + 1)).2)
  | null (huns : header.control.UNS = true) (hunsol : s.unsol.pState = .confirmWait)
      (hseq : s.unsol.seq.confirmNum = header.control.SEQ)
      (hnull : s.unsol.completedNull = false) :
      TakesConfirm cb s header
        { s.cancelConfirmTimer with
          unsol := { s.unsol with completedNull := true, pState := .idle } }
  | events (huns : header.control.UNS = true) (hunsol : s.unsol.pState = .confirmWait)
      (hseq : s.unsol.seq.confirmNum = header.control.SEQ)
      (hnull : s.unsol.completedNull = true) :
      TakesConfirm cb s header ((s.takeConfirm header.control).setUnsolState .idle)

theorem setUnsolState_self {s : OContext W} {pState : UnsolicitedState}
    (h : s.unsol.pState = pState) : s.setUnsolState pState = s := by
  rw [← h]
  rfl

/-- A confirm does one of these things. -/
theorem takesConfirm (s : OContext W) (header : APDUHeader) :
    TakesConfirm cb s header (s.processConfirm cb header) := by
  unfold processConfirm
  split
  next huns =>
    unfold onUnsolConfirm
    dsimp only
    cases hunsol : s.unsol.pState with
    | idle =>
      dsimp only
      rw [setUnsolState_self hunsol]
      exact .ignoredUnsol huns fun h => by rw [hunsol] at h; cases h
    | confirmWait =>
      dsimp only
      by_cases hseq : s.unsol.seq.confirmNum = header.control.SEQ
      · rw [if_pos hseq, show s.cancelConfirmTimer.unsol.completedNull = s.unsol.completedNull
          from rfl]
        cases hnull : s.unsol.completedNull with
        | true => exact .events huns hunsol hseq hnull
        | false => exact .null huns hunsol hseq hnull
      · rw [if_neg hseq, setUnsolState_self hunsol]
        exact .ignoredUnsol huns fun _ => hseq
  next huns =>
    rw [Bool.not_eq_true] at huns
    unfold onSolConfirm
    dsimp only
    cases hsol : s.sol.pState with
    | idle =>
      dsimp only
      rw [setSolState_self hsol]
      exact .ignoredSol huns fun h => by rw [hsol] at h; cases h
    | confirmWait =>
      dsimp only
      by_cases hseq : s.sol.seq.confirmNum = header.control.SEQ
      · rw [if_pos hseq]
        show TakesConfirm cb s header
          ((if (s.takeConfirm header.control).hasSelection = true then
              (s.takeConfirm header.control).continueMultiFragResponse cb (header.control.SEQ + 1)
            else (s.takeConfirm header.control, .idle)).1.setSolState
            (if (s.takeConfirm header.control).hasSelection = true then
              (s.takeConfirm header.control).continueMultiFragResponse cb (header.control.SEQ + 1)
            else (s.takeConfirm header.control, .idle)).2)
        cases hselection : (s.takeConfirm header.control).hasSelection with
        | true => exact .more huns hsol hseq hselection
        | false => exact .last huns hsol hseq hselection
      · rw [if_neg hseq, setSolState_self hsol]
        exact .ignoredSol huns fun _ => hseq

/-! ## Fragments, deferred requests and timeouts -/

/-- A request without a response changes only the surroundings. -/
theorem processRequestNoAck_state (s : OContext W) (header : APDUHeader) (objects : List UInt8) :
    ∃ world, s.processRequestNoAck cb header objects = { s with world := world } := by
  unfold processRequestNoAck
  split
  · unfold handleDirectOperate
    split
    · exact ⟨s.world, rfl⟩
    · exact ⟨_, rfl⟩
  · exact ⟨s.world, rfl⟩

/-- What becomes of a fragment. -/
inductive TakesFragment (cb : Callbacks W) (s : OContext W) : OContext W → Prop where
  | ignored : TakesFragment cb s s
  | noAck (world : W) : TakesFragment cb s { s with world := world }
  | deferred (header : APDUHeader) (objects : List UInt8) (htx : s.isTransmitting = true) :
      TakesFragment cb s ((s.noteConfirm header).defer header objects)
  | confirm {s' : OContext W} (header : APDUHeader) (htx : s.isTransmitting = false)
      (hfunction : header.function = .confirm)
      (h : TakesConfirm cb (s.note (.confirmReceived header.control)) header s') :
      TakesFragment cb s s'
  | request {s' : OContext W} (header : APDUHeader) (objects : List UInt8)
      (htx : s.isTransmitting = false) (hfunction : header.function ≠ .confirm)
      (h : TakesRequest cb s header objects s') : TakesFragment cb s s'

/-- A fragment is a request without response, a confirm, or a request that is taken up or
deferred. -/
theorem takesFragment_processAPDU (s : OContext W) (header : APDUHeader) (objects : List UInt8) :
    TakesFragment cb s (s.processAPDU cb header objects) := by
  unfold processAPDU
  split
  · obtain ⟨world, hworld⟩ := @processRequestNoAck_state W cb s header objects
    rw [hworld]
    exact .noAck world
  · dsimp only
    have htx' : (s.noteConfirm header).isTransmitting = s.isTransmitting := by
      unfold noteConfirm
      split <;> rfl
    rw [htx']
    cases htx : s.isTransmitting with
    | true => exact .deferred header _ htx
    | false =>
      rw [if_neg Bool.false_ne_true]
      by_cases hfunction : header.function = .confirm
      · rw [if_pos hfunction, noteConfirm, if_pos hfunction]
        exact .confirm header htx hfunction (takesConfirm _ header)
      · rw [if_neg hfunction, noteConfirm, if_neg hfunction]
        exact .request header _ htx hfunction (s.takesRequest header _)

/-- Every fragment that comes in has one of these effects. -/
theorem takesFragment (s : OContext W) (fragment : List UInt8) :
    TakesFragment cb s (s.parseHeader cb fragment) := by
  unfold parseHeader
  split
  next header _ =>
    split
    · exact .ignored
    · exact s.takesFragment_processAPDU header (fragment.drop 2)
  next => exact .ignored

/-- The deferred request is no longer set. -/
def clearDeferred (s : OContext W) : OContext W :=
  { s with deferred := { s.deferred with isSet := false } }

/-- What becomes of a deferred request. -/
inductive TakesDeferred (cb : Callbacks W) (s : OContext W) : OContext W → Prop where
  | nothing (h : s.canTransmit = true → s.deferred.isSet = false) : TakesDeferred cb s s
  | waits (hset : s.deferred.isSet = true) (hread : s.deferred.header.function = .read)
      (hunsol : s.unsol.pState = .confirmWait) : TakesDeferred cb s s
  | confirm (hcan : s.canTransmit = true) (hset : s.deferred.isSet = true)
      (hfunction : s.deferred.header.function = .confirm)
      (h : TakesConfirm cb s s.deferred.header (s.processConfirm cb s.deferred.header)) :
      TakesDeferred cb s (s.processConfirm cb s.deferred.header).clearDeferred
  | request (hcan : s.canTransmit = true) (hset : s.deferred.isSet = true)
      (hfunction : s.deferred.header.function ≠ .confirm)
      (hread : s.deferred.header.function = .read → s.unsol.pState = .idle)
      (h : TakesRequest cb s s.deferred.header s.deferred.objects
        (s.processRequest cb s.deferred.header s.deferred.objects)) :
      TakesDeferred cb s
        (s.processRequest cb s.deferred.header s.deferred.objects).clearDeferred

/-- A deferred request is taken up in one of these ways, or stays where it is. -/
theorem takesDeferred (s : OContext W) : TakesDeferred cb s (s.checkForDeferredRequest cb) := by
  unfold checkForDeferredRequest
  split
  next hcan =>
    rw [Bool.and_eq_true] at hcan
    unfold processDeferredRequest
    by_cases hfunction : s.deferred.header.function = .confirm
    · rw [if_pos hfunction]
      exact .confirm hcan.1 hcan.2 hfunction (s.takesConfirm s.deferred.header)
    · rw [if_neg hfunction]
      by_cases hread : s.deferred.header.function = .read
      · rw [if_pos hread]
        by_cases hunsol : s.unsol.isIdle = true
        · rw [if_pos hunsol]
          exact .request hcan.1 hcan.2 hfunction (fun _ => (unsol_isIdle s).mp hunsol)
            (s.takesRequest _ _)
        · rw [if_neg hunsol]
          have hself : { s with deferred := { s.deferred with isSet := !false } } = s := by
            rw [Bool.not_false, ← hcan.2]
          dsimp only
          rw [hself]
          refine .waits hcan.2 hread ?_
          cases hstate : s.unsol.pState with
          | idle => exact absurd ((unsol_isIdle s).mpr hstate) hunsol
          | confirmWait => rfl
      · rw [if_neg hread]
        exact .request hcan.1 hcan.2 hfunction (fun h => absurd h hread) (s.takesRequest _ _)
  next hcan =>
    refine .nothing fun h => ?_
    rw [h, Bool.true_and, Bool.not_eq_true] at hcan
    exact hcan

/-- What a timeout does. -/
inductive Expires (s : OContext W) : OContext W → Prop where
  | inactive (htimer : s.confirmTimer = none) : Expires s s
  | solicited (timeout : Int) (htimer : s.confirmTimer = some ⟨timeout, .solicited⟩)
      (hsol : s.sol.pState = .confirmWait) :
      Expires s ((s.cancelConfirmTimer.note .abandoned).setSolState .idle)
  | unsolicited (timeout : Int) (htimer : s.confirmTimer = some ⟨timeout, .unsolicited⟩)
      (hunsol : s.unsol.pState = .confirmWait) :
      Expires s (({ s.cancelConfirmTimer with
        eventBuffer := s.eventBuffer.unselect }).setUnsolState .idle)
  | unexpected (timer : ConfirmTimer) (htimer : s.confirmTimer = some timer)
      (hsol : timer.action = .solicited → s.sol.pState = .idle)
      (hunsol : timer.action = .unsolicited → s.unsol.pState = .idle) :
      Expires s s.cancelConfirmTimer

/-- A timeout ends the wait for a confirm, and does nothing else. -/
theorem expires (s : OContext W) : Expires s s.expireTimer := by
  unfold expireTimer
  rcases htimer : s.confirmTimer with _ | ⟨timeout, action⟩
  · exact .inactive htimer
  · cases action with
    | solicited =>
      dsimp only
      unfold onSolConfirmTimeout
      rw [show s.cancelConfirmTimer.sol = s.sol from rfl]
      cases hsol : s.sol.pState with
      | idle =>
        have hself : s.cancelConfirmTimer.setSolState .idle = s.cancelConfirmTimer :=
          setSolState_self hsol
        dsimp only
        rw [hself]
        exact .unexpected _ htimer (fun _ => hsol) fun h => by cases h
      | confirmWait => exact .solicited timeout htimer hsol
    | unsolicited =>
      dsimp only
      unfold onUnsolConfirmTimeout
      rw [show s.cancelConfirmTimer.unsol = s.unsol from rfl]
      cases hunsol : s.unsol.pState with
      | idle =>
        have hself : s.cancelConfirmTimer.setUnsolState .idle = s.cancelConfirmTimer :=
          setUnsolState_self hunsol
        dsimp only
        rw [hself]
        exact .unexpected _ htimer (fun h => by cases h) fun _ => hunsol
      | confirmWait => exact .unsolicited timeout htimer hunsol

/-! ## Unsolicited responses -/

/-- An unsolicited response, with events or without, is about to be sent. -/
def willSendUnsolicited (s : OContext W) : Bool :=
  s.canSendUnsolicited && (!s.unsol.completedNull || s.hasUnsolicitedEvents)

/-- What is sent unsolicited. -/
inductive SendsUnsolicited (cb : Callbacks W) (s : OContext W) : OContext W → Prop where
  | nothing (h : s.willSendUnsolicited = false) : SendsUnsolicited cb s s
  | null (tx : TxBuffer) (hcan : s.canSendUnsolicited = true)
      (hnull : s.unsol.completedNull = false) :
      SendsUnsolicited cb s ((s.sendUnsolFrom tx).note (.unsolicited
        { control := unsolControl s.unsol.seq.num, events := [], bytes := tx.getLastResponse }))
  | events (writer : HeaderWriter) (tx : TxBuffer) (hcan : s.canSendUnsolicited = true)
      (hnull : s.unsol.completedNull = true) (hevents : s.hasUnsolicitedEvents = true) :
      SendsUnsolicited cb s (((s.loadUnsolicited writer).1.sendUnsolFrom tx).note (.unsolicited
        { control := unsolControl s.unsol.seq.num, events := (s.loadUnsolicited writer).2.2,
          bytes := tx.getLastResponse }))

/-- An unsolicited response is sent in one of these ways, or none is. -/
theorem sendsUnsolicited (s : OContext W) :
    SendsUnsolicited cb s (s.checkForUnsolicited cb) := by
  unfold checkForUnsolicited
  split
  next hcan =>
    split
    next hnull =>
      split
      next hevents =>
        dsimp only
        obtain ⟨tx, heq⟩ := @sendUnsolicited_eq W cb
          (s.loadUnsolicited s.unsol.tx.start.getWriter).1
          (s.unsol.tx.start.withWriter (s.loadUnsolicited s.unsol.tx.start.getWriter).2.1)
          (s.loadUnsolicited s.unsol.tx.start.getWriter).2.2
        rw [heq]
        exact .events s.unsol.tx.start.getWriter tx hcan hnull hevents
      next hevents =>
        rw [Bool.not_eq_true] at hevents
        exact .nothing (by simp [willSendUnsolicited, hnull, hevents])
    next hnull =>
      rw [Bool.not_eq_true] at hnull
      obtain ⟨tx, heq⟩ := @sendUnsolicited_eq W cb s s.unsol.tx.start []
      rw [heq]
      exact .null tx hcan hnull
  next hcan =>
    rw [Bool.not_eq_true] at hcan
    exact .nothing (by simp [willSendUnsolicited, hcan])

/-! ## Parameters -/

/-- Of the parameters, only the classes that are reported change. -/
def KeepsParams (s s' : OContext W) : Prop :=
  ∃ mask, s'.params = { s.params with unsolClassMask := mask }

namespace KeepsParams

variable {s s' s'' : OContext W}

theorem of_eq (h : s'.params = s.params) : KeepsParams s s' := ⟨_, h⟩

theorem trans (h : KeepsParams s s') (h' : KeepsParams s' s'') : KeepsParams s s'' := by
  obtain ⟨mask, h⟩ := h
  obtain ⟨mask', h'⟩ := h'
  exact ⟨mask', by rw [h', h]⟩

theorem takesRequest {header : APDUHeader} {objects : List UInt8}
    (ht : TakesRequest cb s header objects s') : KeepsParams s s' := by
  cases ht with
  | read huns hnew hread hsol hunsol =>
    obtain ⟨r, -, -, -, heq⟩ := @respondToReadRequest_state W cb (s.withSeq header) header objects
    rw [heq]
    exact .of_eq rfl
  | nonRead huns hnew hread hsol =>
    obtain ⟨s₁, tx, hs₁, heq⟩ := @respondToNonReadRequest_eq W cb (s.withSeq header) header objects
    rw [heq]
    obtain ⟨world, staticIIN, control, database, mask, effects, rfl, -, -, -⟩ := hs₁
    exact ⟨mask, rfl⟩
  | _ => exact .of_eq rfl

theorem takesConfirm {header : APDUHeader} (ht : TakesConfirm cb s header s') :
    KeepsParams s s' := by
  cases ht with
  | more huns hsol hseq hselection =>
    obtain ⟨r, -, -, -, heq⟩ := @continueMultiFragResponse_state W cb
      (s.takeConfirm header.control) (header.control.SEQ + 1)
    rw [heq]
    exact .of_eq rfl
  | _ => exact .of_eq rfl

theorem takesFragment (ht : TakesFragment cb s s') : KeepsParams s s' := by
  cases ht with
  | ignored => exact .of_eq rfl
  | noAck world => exact .of_eq rfl
  | deferred header objects htx =>
    unfold noteConfirm
    split <;> exact .of_eq rfl
  | confirm header htx hfunction hc =>
    have hnoted : KeepsParams s (s.note (.confirmReceived header.control)) := .of_eq rfl
    exact hnoted.trans (takesConfirm hc)
  | request header objects htx hfunction hr => exact takesRequest hr

theorem takesDeferred (ht : TakesDeferred cb s s') : KeepsParams s s' := by
  cases ht with
  | nothing _ => exact .of_eq rfl
  | waits hset hread hunsol => exact .of_eq rfl
  | confirm hcan hset hfunction hc => exact (takesConfirm hc).trans (.of_eq rfl)
  | request hcan hset hfunction hread hr => exact (takesRequest hr).trans (.of_eq rfl)

theorem sendsUnsolicited (hs : SendsUnsolicited cb s s') : KeepsParams s s' := by
  cases hs with
  | nothing => exact .of_eq rfl
  | null tx hcan hnull =>
    unfold sendUnsolFrom startUnsolicitedConfirmTimer
    rw [startConfirmTimer_eq]
    exact .of_eq rfl
  | events writer tx hcan hnull hevents =>
    unfold sendUnsolFrom startUnsolicitedConfirmTimer
    rw [startConfirmTimer_eq]
    exact .of_eq rfl

theorem perform (s : OContext W) (a : Action W) : KeepsParams s (s.perform cb a) := by
  cases a with
  | goOffline =>
    simp only [OContext.perform, onLowerLayerDown]
    split <;> exact .of_eq rfl
  | transmitted =>
    have htransmitted : KeepsParams s { s with isTransmitting := false } := .of_eq rfl
    exact htransmitted.trans (takesDeferred (OContext.takesDeferred _))
  | parse fragment => exact takesFragment (s.takesFragment fragment)
  | expire =>
    have hexpires := s.expires
    simp only [OContext.perform]
    generalize s.expireTimer = s' at hexpires ⊢
    cases hexpires <;> exact .of_eq rfl
  | updatePoint u =>
    simp only [OContext.perform, updatePoint]
    split <;> exact .of_eq rfl
  | checkForDeferredRequest => exact takesDeferred s.takesDeferred
  | checkForUnsolicited => exact sendsUnsolicited s.sendsUnsolicited
  | _ => exact .of_eq rfl

end KeepsParams

end OContext
end Outstation
end Dnp3
