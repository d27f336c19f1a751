import Dnp3.Master.MasterSettled
import Dnp3.Master.TaskRequests

/-!
# The buffer of requests

Requests and confirms are built in one buffer, which keeps its size: a task writes its request
through a header writer, and a confirm is only a header.

`room` is the size of the buffer.  It is kept by everything a master does in an event (`room_step`),
as long as what the tasks of the user build is appended by a header writer (`Surroundings.Appends`),
which neither lengthens nor shortens the memory that it is given.  So a request that fits into the
buffer a master is made with always fits, and the results about the bytes of requests, such as those
about commands in `Master.SelectedCommands`, ask for room once and not at every step of a run.
-/

namespace Dnp3
namespace Master
namespace MContext

open App Library Relation

variable {s : MContext} {a : Surroundings}

/-- The size of the buffer of requests. -/
def room (s : MContext) : Nat := s.txBuffer.length

theorem room_endTask (s : MContext) (a : Surroundings) (ref : TaskRef) (result : TaskCompletion) :
    (s.endTask a ref result).room = s.room := by
  rw [endTask_eq, room, room]

theorem room_completeActiveTask (s : MContext) : s.completeActiveTask.room = s.room := by
  cases hactive : s.pActiveTask with
  | none => rw [completeActiveTask_none hactive]
  | some ref =>
    obtain ⟨timer, h⟩ := completeActiveTask_some hactive
    rw [h, room, room]

theorem room_checkConfirmTransmit (s : MContext) : s.checkConfirmTransmit.room = s.room := by
  unfold checkConfirmTransmit
  split
  next id confirm queue _ _ =>
    refine (APDURequest.room_setControl ..).trans ((APDURequest.room_setFunction ..).trans ?_)
    rfl
  · rfl

theorem room_confirmIfAsked (s : MContext) (id : Nat) (header : APDUResponseHeader)
    (unsolicited : Bool) : (s.confirmIfAsked id header unsolicited).room = s.room := by
  unfold confirmIfAsked
  split
  · exact room_checkConfirmTransmit _
  · rfl

theorem room_noteMeasurements (s : MContext) (id : Nat) (values : Measurements) :
    (s.noteMeasurements id values).room = s.room := by
  rcases noteMeasurements_cases s id values with h | h
  · rw [h]
  · rw [h]
    rfl

theorem room_processIIN (s : MContext) (iin : IINField) : (s.processIIN iin).room = s.room := by
  unfold processIIN
  generalize demanded s.params iin = refs
  induction refs generalizing s with
  | nil => rfl
  | cons ref refs ih => exact ih (s.demand ref)

theorem room_takeUnsolicited (s : MContext) (id : Nat) (header : APDUResponseHeader)
    (objects : List UInt8) : (s.takeUnsolicited id header objects).room = s.room := by
  unfold takeUnsolicited
  dsimp only
  split
  · rw [room_confirmIfAsked, room_noteMeasurements]
  · exact room_noteMeasurements s id _

section

variable (happends : a.Appends)
include happends

theorem room_resumeActiveTask (s : MContext) : (s.resumeActiveTask a).room = s.room := by
  unfold resumeActiveTask
  split
  · split
    · rfl
    next ref hactive =>
      have hbuilt := TaskBody.length_buildRequest happends s.txBuffer s.solSeq (s.tasks ref).body
      dsimp only
      split
      · exact hbuilt
      · refine (room_completeActiveTask _).trans ((room_endTask ..).trans ?_)
        exact hbuilt
  · rfl

theorem room_startTaskReady (s : MContext) : (s.startTaskReady a).room = s.room := by
  unfold startTaskReady
  split
  · rfl
  · exact room_resumeActiveTask happends s

theorem room_checkForTask (s : MContext) : (s.checkForTask a).room = s.room := by
  unfold checkForTask
  split
  · split
    · unfold startTaskIdle
      split
      · rfl
      · split
        · exact room_resumeActiveTask happends _
        · rfl
    · exact room_startTaskReady happends s
    · rfl
  · rfl

theorem room_onResponseWaitForResponse (s : MContext) (id : Nat) (header : APDUResponseHeader)
    (objects : List UInt8) : (s.onResponseWaitForResponse a id header objects).room = s.room := by
  cases hactive : s.pActiveTask with
  | none => simp only [onResponseWaitForResponse, hactive]
  | some ref =>
    by_cases hseq : header.control.SEQ = s.solSeq
    · rw [onResponseWaitForResponse_eq hactive id hseq]
      have hanswered : (s.answered a ref id header objects).room = s.room :=
        room_noteMeasurements _ id _
      have hends (completion : TaskCompletion) :
          { (((s.answered a ref id header objects).endTask a ref completion).confirmIfAsked id
            header false).completeActiveTask with tstate := .idle }.room = s.room := by
        refine (room_completeActiveTask _).trans ?_
        rw [room_confirmIfAsked, room_endTask, hanswered]
      dsimp only
      cases ((s.tasks ref).body.processResponse a header objects).2.1 with
      | okContinue => exact (room_confirmIfAsked _ id header false).trans hanswered
      | okRepeat =>
        rw [room_startTaskReady happends, room_confirmIfAsked, hanswered]
      | okFinal => exact hends .success
      | errorBadResponse => exact hends .failureBadResponse
      | errorInternalFailure => exact hends .failureInternalError
    · simp only [onResponseWaitForResponse, hactive, ne_eq, hseq, not_false_eq_true, if_true]

theorem room_onReceive (s : MContext) (apdu : List UInt8) : (s.onReceive a apdu).room = s.room := by
  unfold onReceive
  split
  · split
    · rfl
    next header _ =>
      rw [processAPDU_eq]
      cases hresponded : (s.noteReceived header (apdu.drop 4)).respondedTo a s.received header
          (apdu.drop 4) with
      | none => rfl
      | some s' =>
        refine (room_processIIN s' header.IIN).trans ?_
        unfold respondedTo at hresponded
        split at hresponded
        · split at hresponded
          · cases hresponded
            exact room_takeUnsolicited _ s.received header _
          · cases hresponded
        · cases hresponded
          unfold onResponseEvent
          split
          · exact room_onResponseWaitForResponse happends _ s.received header _
          · rfl
        · cases hresponded
  · rfl

end

/-- The buffer of requests keeps its size. -/
theorem room_step (s : MContext) (e : Event × Surroundings) (happends : e.2.Appends) :
    (s.step e).room = s.room := by
  obtain ⟨e, a⟩ := e
  have happends : a.Appends := happends
  cases e with
  | lowerLayerUp =>
    show s.onLowerLayerUp.room = s.room
    unfold onLowerLayerUp
    split
    · rfl
    · obtain ⟨timer, hup⟩ := wentUp_eq s
      show s.wentUp.room = s.room
      rw [hup]
      rfl
  | lowerLayerDown =>
    show (s.onLowerLayerDown a).room = s.room
    by_cases honline : s.isOnline = true
    · rw [onLowerLayerDown_eq honline]
      unfold wentDown cutOff
      cases s.pActiveTask with
      | none => rfl
      | some ref => exact room_endTask s a ref .failureNoComms
    · simp only [onLowerLayerDown, honline]
      rfl
  | receive apdu => exact room_onReceive happends s apdu
  | sendResult =>
    show (s.onSendResult a).room = s.room
    unfold onSendResult
    split
    · exact (room_checkForTask happends _).trans (room_checkConfirmTransmit _)
    · rfl
  | responseTimeout =>
    show (if _ then _ else _ : MContext).room = s.room
    split
    · unfold onResponseTimeout onResponseTimeoutWaitForResponse
      split
      · split
        · split
          · rfl
          · exact (room_completeActiveTask _).trans
              (room_endTask { s with responseTimer := none } a _ _)
        · rfl
      · rfl
    · rfl
  | scheduleTimeout =>
    show (if _ then _ else _ : MContext).room = s.room
    split
    · exact room_checkForTask happends _
    · rfl
  | taskStartTimeout =>
    show (if _ then _ else _ : MContext).room = s.room
    split
    · obtain ⟨tasks, log, h⟩ := checkTaskStartTimeout_eq { s with taskStartTimeoutTimer := none } a
      rw [h]
      rfl
    · rfl
  | runPosted =>
    show (s.runPosted a).room = s.room
    unfold runPosted
    split
    · rfl
    · exact room_checkForTask happends _
    · rfl
  | pendingTask => rfl
  | scheduleAdhocTask request =>
    show (s.scheduleAdhocTask a request).room = s.room
    unfold scheduleAdhocTask
    dsimp only
    split
    · exact room_checkForTask happends _
    · exact room_endTask _ a _ _
  | addScan period =>
    show (s.addScan period).room = s.room
    unfold addScan
    dsimp only
    split <;> rfl
  | demandScan scan =>
    show (s.demandScan scan).room = s.room
    unfold demandScan
    split <;> rfl

end MContext
end Master
end Dnp3
