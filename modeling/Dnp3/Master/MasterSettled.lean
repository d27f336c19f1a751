import Dnp3.Master.MasterMoves

/-!
# A master between events

The state of the task, the active task and the response timer change in different handlers.  Between
events they fit: the master is idle when no task is active, and it waits for a response when the
response timer runs.  While it is offline it is idle, nothing is transmitted and no task waits with
the scheduler.

`StepCase` lists what an event can do to a settled master, and `Settled.step_cases` says that the
list is complete; `Settled.step` that a settled master stays settled.  Most handlers leave alone
what matters here (`Steady`), and the others end in one of a few ways: the active task has ended and
the next one is looked for, or it goes on and waits for the next response, with its timer started.
-/

namespace Dnp3
namespace Master
namespace MContext

open App Library Relation

variable {s s' : MContext} {a : Surroundings} {ref : TaskRef}

/-- The state of the task fits the active task and the response timer. -/
structure Phased (s : MContext) : Prop where
  idle_iff : s.tstate = .idle ↔ s.pActiveTask = none
  waiting_iff : s.tstate = .waitForResponse ↔ s.responseTimer.isSome = true

/-- What holds between events. -/
structure Settled (s : MContext) : Prop extends Phased s where
  offline : s.isOnline = false → s.tstate = .idle ∧ s.isSending = false ∧ s.scheduler = []

/-- The phase is left alone. -/
structure Steady (s s' : MContext) : Prop where
  tstate : s'.tstate = s.tstate
  pActiveTask : s'.pActiveTask = s.pActiveTask
  responseTimer : s'.responseTimer = s.responseTimer
  isOnline : s'.isOnline = s.isOnline

theorem Steady.refl (s : MContext) : Steady s s := by constructor <;> rfl

theorem Steady.trans {s'' : MContext} (h : Steady s s') (h' : Steady s' s'') : Steady s s'' where
  tstate := h'.tstate.trans h.tstate
  pActiveTask := h'.pActiveTask.trans h.pActiveTask
  responseTimer := h'.responseTimer.trans h.responseTimer
  isOnline := h'.isOnline.trans h.isOnline

theorem Phased.steady (h : s.Phased) (hsteady : Steady s s') : s'.Phased where
  idle_iff := by rw [hsteady.tstate, hsteady.pActiveTask, h.idle_iff]
  waiting_iff := by rw [hsteady.tstate, hsteady.responseTimer, h.waiting_iff]

/-- A master that is online is settled when its phase fits. -/
theorem Phased.settled (h : s.Phased) (honline : s.isOnline = true) : s.Settled where
  toPhased := h
  offline := by simp [honline]

theorem Phased.timer_of_ready (h : s.Phased) (hready : s.tstate = .taskReady) :
    s.responseTimer = none := by
  rw [← Option.not_isSome_iff_eq_none, ← h.waiting_iff, hready]
  simp

theorem Phased.timer_of_idle (h : s.Phased) (hidle : s.tstate = .idle) :
    s.responseTimer = none := by
  rw [← Option.not_isSome_iff_eq_none, ← h.waiting_iff, hidle]
  simp

theorem Phased.active (h : s.Phased) (hbusy : s.tstate ≠ .idle) :
    ∃ ref, s.pActiveTask = some ref := by
  rw [Ne, h.idle_iff] at hbusy
  exact Option.ne_none_iff_exists'.mp hbusy

/-! ## Handlers that leave the phase alone -/

theorem steady_checkConfirmTransmit (s : MContext) : Steady s s.checkConfirmTransmit := by
  obtain h | ⟨_, _, _, _, _, _, h⟩ := checkConfirmTransmit_cases s
  · rw [h]
    exact .refl s
  · rw [h]
    constructor <;> rfl

theorem steady_confirms {id : Nat} {header : APDUResponseHeader} (h : Confirms s id header s') :
    Steady s s' := by
  cases h with
  | none => exact .refl s
  | queued _ =>
    exact Steady.trans (by constructor <;> rfl) (steady_checkConfirmTransmit _)

theorem steady_confirmIfAsked (s : MContext) (id : Nat) (header : APDUResponseHeader)
    (unsolicited : Bool) : Steady s (s.confirmIfAsked id header unsolicited) := by
  unfold confirmIfAsked
  split
  · exact Steady.trans (by constructor <;> rfl) (steady_checkConfirmTransmit _)
  · exact .refl s

theorem steady_noteMeasurements (s : MContext) (id : Nat) (values : Measurements) :
    Steady s (s.noteMeasurements id values) := by
  rcases noteMeasurements_cases s id values with h | h <;> rw [h] <;> constructor <;> rfl

theorem steady_processIIN (s : MContext) (iin : IINField) : Steady s (s.processIIN iin) := by
  unfold processIIN
  generalize demanded s.params iin = refs
  induction refs generalizing s with
  | nil => exact .refl s
  | cons ref refs ih => exact Steady.trans (by constructor <;> rfl) (ih (s.demand ref))

theorem steady_takeUnsolicited (s : MContext) (id : Nat) (header : APDUResponseHeader)
    (objects : List UInt8) : Steady s (s.takeUnsolicited id header objects) := by
  unfold takeUnsolicited
  dsimp only
  have hnote := steady_noteMeasurements s id (MeasurementHandler.processMeasurements objects).2
  split
  · exact hnote.trans (steady_confirmIfAsked _ id header true)
  · exact hnote

/-! ## The phase after a task has gone on -/

/-- The active task has ended, and the master is idle. -/
theorem phased_completeActiveTask (hactive : s.pActiveTask = some ref)
    (htimer : s.responseTimer = none) : Phased { s.completeActiveTask with tstate := .idle } := by
  obtain ⟨timer, h⟩ := completeActiveTask_some hactive
  rw [h]
  constructor <;> simp [htimer]

/-- The active task waits for the next response. -/
theorem phased_startResponseTimer (hactive : s.pActiveTask = some ref)
    (hwaiting : s.tstate = .waitForResponse) : Phased (s.startResponseTimer a) := by
  constructor <;> simp [startResponseTimer, hactive, hwaiting]

/-- A task that resumes waits for the channel or for a response, or it has ended. -/
theorem phased_resumeActiveTask (hactive : s.pActiveTask = some ref)
    (htimer : s.responseTimer = none) : Phased (s.resumeActiveTask a) := by
  unfold resumeActiveTask
  split
  · rw [hactive]
    dsimp only
    split
    · constructor <;> simp [transmit, startResponseTimer, hactive]
    · rw [endTask_eq]
      exact phased_completeActiveTask hactive htimer
  · constructor <;> simp [htimer, hactive]

theorem phased_startTaskReady (hactive : s.pActiveTask = some ref)
    (htimer : s.responseTimer = none) : Phased (s.startTaskReady a) := by
  unfold startTaskReady
  split
  · constructor <;> simp [htimer, hactive]
  · exact phased_resumeActiveTask hactive htimer

/-- An idle master that looks for a task has one, or is idle. -/
theorem phased_startTaskIdle (h : s.Phased) (hidle : s.tstate = .idle) :
    Phased (s.startTaskIdle a) := by
  unfold startTaskIdle
  split
  · exact h
  · split
    next ref rest _ => exact phased_resumeActiveTask rfl (h.timer_of_idle hidle)
    · exact h.steady (by constructor <;> rfl)

/-- Looking for a task leaves the phase fitting. -/
theorem Phased.checkForTask (h : s.Phased) : Phased (s.checkForTask a) := by
  unfold MContext.checkForTask
  split
  · split
    next hidle => exact phased_startTaskIdle h hidle
    next hready =>
      obtain ⟨ref, hactive⟩ := h.active (by simp [hready])
      exact phased_startTaskReady hactive (h.timer_of_ready hready)
    · exact h
  · exact h

/-- Looking for a task is a sequence of moves. -/
theorem Phased.moves_checkForTask (h : s.Phased) : Moves a s (s.checkForTask a) := by
  unfold MContext.checkForTask
  split
  · split
    next hidle => exact moves_startTaskIdle (h.idle_iff.mp hidle)
    · exact moves_startTaskReady s a
    · exact .refl s
  · exact .refl s

/-- A task that has processed a response: only the timer is stopped. -/
theorem steady_answered (s : MContext) (a : Surroundings) (ref : TaskRef) (id : Nat)
    (header : APDUResponseHeader) (objects : List UInt8) :
    Steady { s with responseTimer := none } (s.answered a ref id header objects) :=
  Steady.trans (by constructor <;> rfl) (steady_noteMeasurements _ id _)

/-- After a response the active task goes on, or has ended. -/
theorem phased_onResponseWaitForResponse (hactive : s.pActiveTask = some ref)
    (hwaiting : s.tstate = .waitForResponse) (id : Nat) {header : APDUResponseHeader}
    (hseq : header.control.SEQ = s.solSeq) (objects : List UInt8) :
    Phased (s.onResponseWaitForResponse a id header objects) := by
  rw [onResponseWaitForResponse_eq hactive id hseq]
  dsimp only
  have hanswered := steady_answered s a ref id header objects
  have hconfirmed {s₂ : MContext} (h : Steady { s with responseTimer := none } s₂) :
      Steady { s with responseTimer := none } (s₂.confirmIfAsked id header false) :=
    h.trans (steady_confirmIfAsked s₂ id header false)
  have hends (completion : TaskCompletion) : Phased
      { (((s.answered a ref id header objects).endTask a ref completion).confirmIfAsked id header
        false).completeActiveTask with tstate := .idle } := by
    have hended : Steady { s with responseTimer := none }
        ((s.answered a ref id header objects).endTask a ref completion) :=
      hanswered.trans (by rw [endTask_eq]; constructor <;> rfl)
    exact phased_completeActiveTask ((hconfirmed hended).pActiveTask.trans hactive)
      (hconfirmed hended).responseTimer
  have hactive₁ := (hconfirmed hanswered).pActiveTask.trans hactive
  cases ((s.tasks ref).body.processResponse a header objects).2.1 with
  | okContinue =>
    exact phased_startResponseTimer hactive₁ ((hconfirmed hanswered).tstate.trans hwaiting)
  | okRepeat => exact phased_startTaskReady hactive₁ (hconfirmed hanswered).responseTimer
  | okFinal => exact hends .success
  | errorBadResponse => exact hends .failureBadResponse
  | errorInternalFailure => exact hends .failureInternalError

theorem Phased.onResponseEvent (h : s.Phased) (id : Nat) (header : APDUResponseHeader)
    (objects : List UInt8) : Phased (s.onResponseEvent a id header objects) := by
  unfold MContext.onResponseEvent
  split
  next hwaiting =>
    obtain ⟨ref, hactive⟩ := h.active (by simp [hwaiting])
    by_cases hseq : header.control.SEQ = s.solSeq
    · exact phased_onResponseWaitForResponse hactive hwaiting id hseq objects
    · simpa [onResponseWaitForResponse, hactive, hseq] using h
  · exact h

/-- After a fragment the phase still fits. -/
theorem Phased.processAPDU (h : s.Phased) (id : Nat) (header : APDUResponseHeader)
    (objects : List UInt8) : Phased (s.processAPDU a id header objects) := by
  rw [processAPDU_eq]
  cases hresponded : s.respondedTo a id header objects with
  | none => exact h
  | some s' =>
    refine Phased.steady ?_ (steady_processIIN s' header.IIN)
    unfold respondedTo at hresponded
    split at hresponded
    · split at hresponded
      · cases hresponded
        exact h.steady (steady_takeUnsolicited s id header objects)
      · cases hresponded
    · cases hresponded
      exact h.onResponseEvent id header objects
    · cases hresponded

/-! ## What an event does -/

/-- The tasks of a session wait with the scheduler. -/
def wentUp (s : MContext) : MContext :=
  (s.sessionTasks.foldl schedule ({ s with isOnline := true }.note .up)).postCheckForTask

/-- The active task, if there is one, has ended for lack of communications. -/
def cutOff (s : MContext) (a : Surroundings) : MContext :=
  match s.pActiveTask with
  | none => s
  | some ref => s.endTask a ref .failureNoComms

/-- The active task has ended, and no task waits. -/
def wentDown (s : MContext) (a : Surroundings) : MContext :=
  { s.cutOff a with
    pActiveTask := none
    scheduler := []
    tstate := .idle
    responseTimer := none
    taskStartTimeoutTimer := none
    scheduleTimer := none
    solSeq := 0
    isOnline := false
    isSending := false }.note .down

/-- What an event can do to a settled master. -/
inductive StepCase (s : MContext) : Event × Surroundings → MContext → Prop
  | moves {e : Event} {a : Surroundings} {s' : MContext} (h : Moves a s s') : StepCase s (e, a) s'
  | up {a : Surroundings} (hoffline : s.isOnline = false) : StepCase s (.lowerLayerUp, a) s.wentUp
  | down {a : Surroundings} (honline : s.isOnline = true) :
      StepCase s (.lowerLayerDown, a) (s.wentDown a)
  | sent {a : Surroundings} {s' : MContext} (honline : s.isOnline = true)
      (h : Moves a { s with isSending := false }.checkConfirmTransmit s') :
      StepCase s (.sendResult, a) s'
  | ignored {apdu : List UInt8} {a : Surroundings} {header : APDUResponseHeader}
      (honline : s.isOnline = true) (hparse : APDUHeaderParser.parseResponse apdu = some header) :
      StepCase s (.receive apdu, a) (s.noteReceived header (apdu.drop 4))
  | responded {apdu : List UInt8} {a : Surroundings} {header : APDUResponseHeader} {s' : MContext}
      (honline : s.isOnline = true) (hparse : APDUHeaderParser.parseResponse apdu = some header)
      (h : (s.noteReceived header (apdu.drop 4)).respondedTo a s.received header (apdu.drop 4) =
        some s') : StepCase s (.receive apdu, a) (s'.processIIN header.IIN)
  | demand {a : Surroundings} {scan : Nat} {rest : List Posted}
      (hposted : s.posted = .demand scan :: rest) :
      StepCase s (.runPosted, a) ({ s with posted := rest }.demand (.bound scan))
  | adhoc {a : Surroundings} {request : UserRequest} {s' : MContext} (honline : s.isOnline = true)
      (h : Moves a ((s.addAdhoc a request).schedule (.adhoc s.adhocTasks)) s') :
      StepCase s (.scheduleAdhocTask request, a) s'
  | refused {a : Surroundings} {request : UserRequest} (hoffline : s.isOnline = false) :
      StepCase s (.scheduleAdhocTask request, a)
        ((s.addAdhoc a request).endTask a (.adhoc s.adhocTasks) .failureNoComms)
  | addScan {a : Surroundings} {period : Int} : StepCase s (.addScan period, a) (s.addScan period)
  | demandScan {a : Surroundings} {scan : Nat} (hscan : scan < s.boundTasks) :
      StepCase s (.demandScan scan, a)
        { s with posted := s.posted ++ [Posted.demand scan] }.postCheckForTask

theorem onLowerLayerDown_eq (honline : s.isOnline = true) :
    s.onLowerLayerDown a = s.wentDown a := by
  unfold onLowerLayerDown wentDown cutOff
  rw [if_pos honline]
  cases hactive : s.pActiveTask <;> simp [endTask_eq]

theorem Phased.fired (h : s.Phased) (hfired : fired s.responseTimer a = true) :
    s.tstate = .waitForResponse := by
  rw [h.waiting_iff]
  unfold MContext.fired at hfired
  split at hfired
  next time hsome => simp [hsome]
  · cases hfired

/-- Everything an event does. -/
theorem Settled.step_cases (h : s.Settled) (e : Event × Surroundings) :
    StepCase s e (s.step e) := by
  obtain ⟨e, a⟩ := e
  cases e with
  | lowerLayerUp =>
    cases honline : s.isOnline with
    | true =>
      have hstep : s.step (.lowerLayerUp, a) = s := by simp [step, onLowerLayerUp, honline]
      rw [hstep]
      exact .moves (.refl s)
    | false =>
      have hstep : s.step (.lowerLayerUp, a) = s.wentUp := by
        simp [step, onLowerLayerUp, honline, wentUp]
      rw [hstep]
      exact .up honline
  | lowerLayerDown =>
    cases honline : s.isOnline with
    | true =>
      have hstep : s.step (.lowerLayerDown, a) = s.wentDown a := onLowerLayerDown_eq honline
      rw [hstep]
      exact .down honline
    | false =>
      have hstep : s.step (.lowerLayerDown, a) = s := by simp [step, onLowerLayerDown, honline]
      rw [hstep]
      exact .moves (.refl s)
  | receive apdu =>
    show StepCase s (.receive apdu, a) (s.onReceive a apdu)
    unfold onReceive
    split
    next honline =>
      split
      · exact .moves (.refl s)
      next header hparse =>
        rw [processAPDU_eq]
        cases hresponded : (s.noteReceived header (apdu.drop 4)).respondedTo a s.received header
            (apdu.drop 4) with
        | none => exact .ignored honline hparse
        | some s' => exact .responded honline hparse hresponded
    · exact .moves (.refl s)
  | sendResult =>
    show StepCase s (.sendResult, a) (s.onSendResult a)
    unfold onSendResult
    split
    next hsends =>
      rw [Bool.and_eq_true] at hsends
      refine .sent hsends.1 (Phased.moves_checkForTask ?_)
      exact h.toPhased.steady (Steady.trans (by constructor <;> rfl)
        (steady_checkConfirmTransmit { s with isSending := false }))
    · exact .moves (.refl s)
  | responseTimeout =>
    show StepCase s (.responseTimeout, a) (if _ then _ else _)
    split
    · exact .moves (ReflTransGen.trans (Framed.moves (by constructor <;> rfl))
        (moves_onResponseTimeout { s with responseTimer := none } a))
    · exact .moves (.refl s)
  | scheduleTimeout =>
    show StepCase s (.scheduleTimeout, a) (if _ then _ else _)
    split
    · have hphased : Phased { s with scheduleTimer := none } :=
        h.toPhased.steady (by constructor <;> rfl)
      exact .moves (ReflTransGen.trans (Framed.moves (by constructor <;> rfl))
        hphased.moves_checkForTask)
    · exact .moves (.refl s)
  | taskStartTimeout =>
    show StepCase s (.taskStartTimeout, a) (if _ then _ else _)
    split
    · exact .moves (ReflTransGen.trans (Framed.moves (by constructor <;> rfl))
        (moves_checkTaskStartTimeout { s with taskStartTimeoutTimer := none } a))
    · exact .moves (.refl s)
  | runPosted =>
    show StepCase s (.runPosted, a) (s.runPosted a)
    unfold runPosted
    split
    · exact .moves (.refl s)
    next rest hposted =>
      have hphased : Phased { s with posted := rest } :=
        h.toPhased.steady (by constructor <;> rfl)
      have hframed : Framed s { s with posted := rest } := by
        refine ⟨rfl, rfl, rfl, rfl, rfl, rfl, rfl, rfl, rfl, ?_, rfl⟩
        simp [postedDemands, hposted]
      exact .moves (hframed.moves.trans hphased.moves_checkForTask)
    next scan rest hposted => exact .demand hposted
  | pendingTask =>
    have hframed : Framed s s.postCheckForTask := by
      refine ⟨rfl, rfl, rfl, rfl, rfl, rfl, rfl, rfl, rfl, ?_, rfl⟩
      simp [postedDemands, postCheckForTask]
    exact .moves hframed.moves
  | scheduleAdhocTask request =>
    show StepCase s (.scheduleAdhocTask request, a) (s.scheduleAdhocTask a request)
    unfold scheduleAdhocTask
    dsimp only
    have haddOnline : (s.addAdhoc a request).isOnline = s.isOnline := rfl
    rw [haddOnline]
    split
    next honline =>
      have hphased : Phased ((s.addAdhoc a request).schedule (.adhoc s.adhocTasks)) :=
        h.toPhased.steady (by constructor <;> rfl)
      exact .adhoc honline hphased.moves_checkForTask
    next honline => exact .refused (by simpa using honline)
  | addScan period => exact .addScan
  | demandScan scan =>
    show StepCase s (.demandScan scan, a) (s.demandScan scan)
    unfold demandScan
    split
    next hscan => exact .demandScan hscan
    · exact .moves (.refl s)

/-! ## Settled masters stay settled -/

theorem foldl_schedule (s : MContext) (refs : List TaskRef) : ∃ timer,
    refs.foldl schedule s =
      { s with scheduler := s.scheduler ++ refs, taskStartTimeoutTimer := timer } := by
  induction refs generalizing s with
  | nil => exact ⟨s.taskStartTimeoutTimer, by simp⟩
  | cons ref refs ih =>
    obtain ⟨timer, h⟩ := schedule_eq s ref
    obtain ⟨timer', h'⟩ := ih (s.schedule ref)
    exact ⟨timer', by rw [List.foldl_cons, h', h]; simp⟩

/-- The tasks of a session wait with the scheduler, and nothing else has changed. -/
theorem wentUp_eq (s : MContext) : ∃ timer,
    s.wentUp =
      { s with
        isOnline := true
        scheduler := s.scheduler ++ s.sessionTasks
        taskStartTimeoutTimer := timer
        posted := s.posted ++ [Posted.checkForTask]
        log := s.log ++ [Entry.up] } := by
  obtain ⟨timer, h⟩ := foldl_schedule ({ s with isOnline := true }.note .up) s.sessionTasks
  exact ⟨timer, by rw [wentUp, h]; rfl⟩

theorem foldl_endTask (s : MContext) (a : Surroundings) (refs : List TaskRef) : ∃ tasks log,
    refs.foldl (fun s ref => s.endTask a ref .failureStartTimeout) s =
      { s with tasks := tasks, log := log } := by
  induction refs generalizing s with
  | nil => exact ⟨s.tasks, s.log, rfl⟩
  | cons ref refs ih =>
    obtain ⟨tasks, log, h⟩ := ih (s.endTask a ref .failureStartTimeout)
    exact ⟨tasks, log, by rw [List.foldl_cons, h, endTask_eq]⟩

/-- The timer of the scheduler changes only the tasks, the list of those that wait, and the log. -/
theorem checkTaskStartTimeout_eq (s : MContext) (a : Surroundings) : ∃ tasks log,
    s.checkTaskStartTimeout a =
      { s with
        tasks := tasks
        log := log
        scheduler := s.scheduler.filter fun ref => !s.isTimedOut a ref } := by
  obtain ⟨tasks, log, h⟩ := foldl_endTask s a (s.scheduler.filter (s.isTimedOut a))
  exact ⟨tasks, log, by rw [checkTaskStartTimeout, h]⟩

theorem settled_wentDown (s : MContext) (a : Surroundings) : (s.wentDown a).Settled := by
  refine ⟨⟨?_, ?_⟩, ?_⟩ <;> simp [wentDown]

theorem settled_initial (params : MasterParams) : (initial params).Settled := by
  refine ⟨⟨?_, ?_⟩, ?_⟩ <;> simp [initial]

/-- What leaves the phase alone keeps an offline master settled, when nothing is transmitted and no
task is scheduled. -/
theorem Settled.steady (h : s.Settled) (hsteady : Steady s s')
    (hsending : s'.isSending = s.isSending)
    (hscheduler : s.isOnline = false → s'.scheduler = s.scheduler) : s'.Settled where
  toPhased := h.toPhased.steady hsteady
  offline := by
    intro hoffline
    rw [hsteady.isOnline] at hoffline
    rw [hsteady.tstate, hsending, hscheduler hoffline]
    exact h.offline hoffline

theorem Settled.checkForTask (h : s.Settled) : (s.checkForTask a).Settled := by
  cases honline : s.isOnline with
  | true =>
    have honline' : (s.checkForTask a).isOnline = true :=
      h.toPhased.moves_checkForTask.unconfirmed.isOnline.trans honline
    exact h.toPhased.checkForTask.settled honline'
  | false => simpa [MContext.checkForTask, honline] using h

/-- A fragment that comes in leaves a master settled. -/
theorem Settled.onReceive (h : s.Settled) (apdu : List UInt8) : (s.onReceive a apdu).Settled := by
  unfold MContext.onReceive
  split
  next honline =>
    split
    · exact h
    next header _ =>
      have hnoted : Steady s (s.noteReceived header (apdu.drop 4)) := by constructor <;> rfl
      have hphased : Phased
          ((s.noteReceived header (apdu.drop 4)).processAPDU a s.received header (apdu.drop 4)) :=
        (h.toPhased.steady hnoted).processAPDU s.received header (apdu.drop 4)
      refine hphased.settled ?_
      rw [processAPDU_eq]
      cases hresponded : (s.noteReceived header (apdu.drop 4)).respondedTo a s.received header
          (apdu.drop 4) with
      | none => exact honline
      | some s' =>
        obtain ⟨hbefore, hconfirms, hafter⟩ := handled_respondedTo hresponded
        rw [(steady_processIIN s' header.IIN).isOnline, hafter.unconfirmed.isOnline,
          (steady_confirms hconfirms).isOnline, hbefore.unconfirmed.isOnline]
        exact honline
  · exact h

theorem Settled.onResponseTimeout (h : s.Settled) (hfired : fired s.responseTimer a = true) :
    ({ s with responseTimer := none }.onResponseTimeout a).Settled := by
  have hwaiting := h.toPhased.fired hfired
  obtain ⟨ref, hactive⟩ := h.toPhased.active (by simp [hwaiting])
  have honline : s.isOnline = true := by
    by_contra hoffline
    simp [(h.offline (by simpa using hoffline)).1] at hwaiting
  have hphased : Phased ({ s with responseTimer := none }.onResponseTimeout a) := by
    simp only [MContext.onResponseTimeout, honline, hwaiting, onResponseTimeoutWaitForResponse,
      hactive, endTask_eq, if_true]
    refine phased_completeActiveTask (?_ : _ = some ref) ?_ <;> rfl
  exact hphased.settled ((moves_onResponseTimeout _ a).unconfirmed.isOnline.trans honline)

/-- Every event leaves a settled master settled. -/
theorem Settled.step (h : s.Settled) (e : Event × Surroundings) : (s.step e).Settled := by
  obtain ⟨e, a⟩ := e
  cases e with
  | lowerLayerUp =>
    cases honline : s.isOnline with
    | true => simpa [MContext.step, onLowerLayerUp, honline] using h
    | false =>
      obtain ⟨timer, hup⟩ := wentUp_eq s
      have hstep : s.step (.lowerLayerUp, a) = s.wentUp := by
        simp [MContext.step, onLowerLayerUp, honline, wentUp]
      rw [hstep, hup]
      refine Phased.settled ⟨?_, ?_⟩ rfl
      · exact h.idle_iff
      · exact h.waiting_iff
  | lowerLayerDown =>
    cases honline : s.isOnline with
    | true =>
      have hstep : s.step (.lowerLayerDown, a) = s.wentDown a := onLowerLayerDown_eq honline
      rw [hstep]
      exact settled_wentDown s a
    | false => simpa [MContext.step, onLowerLayerDown, honline] using h
  | receive apdu => exact h.onReceive apdu
  | sendResult =>
    show (s.onSendResult a).Settled
    unfold onSendResult
    split
    next hsends =>
      rw [Bool.and_eq_true] at hsends
      have hsteady : Steady s { s with isSending := false }.checkConfirmTransmit :=
        Steady.trans (by constructor <;> rfl) (steady_checkConfirmTransmit _)
      exact ((h.toPhased.steady hsteady).settled
        (hsteady.isOnline.trans hsends.1)).checkForTask
    · exact h
  | responseTimeout =>
    show (if _ then _ else _ : MContext).Settled
    split
    next hfired => exact h.onResponseTimeout hfired
    · exact h
  | scheduleTimeout =>
    show (if _ then _ else _ : MContext).Settled
    split
    · apply Settled.checkForTask
      exact h.steady (by constructor <;> rfl) rfl fun _ => rfl
    · exact h
  | taskStartTimeout =>
    show (if _ then _ else _ : MContext).Settled
    split
    · obtain ⟨tasks, log, hended⟩ := checkTaskStartTimeout_eq
        { s with taskStartTimeoutTimer := none } a
      rw [hended]
      refine h.steady (by constructor <;> rfl) rfl fun hoffline => ?_
      simp [(h.offline hoffline).2.2]
    · exact h
  | runPosted =>
    show (s.runPosted a).Settled
    unfold runPosted
    split
    · exact h
    · apply Settled.checkForTask
      exact h.steady (by constructor <;> rfl) rfl fun _ => rfl
    · exact h.steady (by constructor <;> rfl) rfl fun _ => rfl
  | pendingTask => exact h.steady (by constructor <;> rfl) rfl fun _ => rfl
  | scheduleAdhocTask request =>
    show (s.scheduleAdhocTask a request).Settled
    unfold scheduleAdhocTask
    dsimp only
    cases honline : s.isOnline with
    | true =>
      have hphased : Phased ((s.addAdhoc a request).schedule (.adhoc s.adhocTasks)) :=
        h.toPhased.steady (by constructor <;> rfl)
      have hadded : (s.addAdhoc a request).isOnline = true := honline
      rw [if_pos hadded]
      exact (hphased.settled honline).checkForTask
    | false =>
      have hadded : ¬ (s.addAdhoc a request).isOnline = true := by simpa [addAdhoc] using honline
      rw [if_neg hadded, endTask_eq]
      exact h.steady (by constructor <;> rfl) rfl fun _ => rfl
  | addScan period =>
    show (s.addScan period).Settled
    unfold addScan
    dsimp only
    split
    next honline => exact h.steady (by constructor <;> rfl) rfl fun hoffline => by simp_all
    · exact h.steady (by constructor <;> rfl) rfl fun _ => rfl
  | demandScan scan =>
    show (s.demandScan scan).Settled
    unfold demandScan
    split
    · exact h.steady (by constructor <;> rfl) rfl fun _ => rfl
    · exact h

end MContext
end Master
end Dnp3
