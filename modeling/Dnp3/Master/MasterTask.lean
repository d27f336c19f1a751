import Dnp3.App.APDUBuilders
import Dnp3.Master.CommandSet
import Dnp3.Master.MasterScheduler
import Dnp3.Master.MeasurementHandler

/-!
# The tasks of a master

A task is a request with what is expected back.  The tasks of the start of a session, the time
synchronisation and the scans recur; commands, restarts, single scans and other requests of the user
run once.  A task keeps the time from which it may run, which a demand sets to zero and its
completion sets anew, depending on how it completed.

Each class of tasks has its own fields; `TaskBody` is a task of one of these classes, and
`IMasterTask` is what they share.

A task answers a few questions: what its request is, what it makes of a response, when it may run
next, and what it does when it starts or ends.  Every class of the source has its own answers, and
the functions on `TaskBody` have one case for each of them.  What the user supplied with a task,
such as the builder of its request or its callback, is asked through `Surroundings`, and what is
told to the user is logged.  `SameClass` relates a task to the one it was, when only its counters
and results have changed.
-/

namespace Dnp3
namespace Master

open App Outstation

/-! ## Time -/

namespace MonotonicTimestamp

/-- The time before all others, in milliseconds. -/
def min : Int := -2 ^ 63

/-- Add a duration to a time of 64 bits. -/
def add (time duration : Int) : Int := (time + duration).bmod (2 ^ 64)

end MonotonicTimestamp

/-! ## What tasks answer -/

/-- How a task ended. -/
inductive TaskCompletion where
  | success
  | failureBadResponse
  | failureResponseTimeout
  | failureStartTimeout
  | failureNoUser
  | failureInternalError
  | failureBadAuthentication
  | failureNotAuthorized
  | failureNoComms
  deriving DecidableEq, Repr

/-- What a task makes of a response. -/
inductive ResponseResult where
  | errorBadResponse
  | errorInternalFailure
  /-- The task is complete. -/
  | okFinal
  /-- The task formats and sends another request. -/
  | okRepeat
  /-- The task goes on with the next response. -/
  | okContinue
  deriving DecidableEq, Repr

/-- How a task has ended when it answers a response like this. -/
def ResponseResult.completion : ResponseResult → Option TaskCompletion
  | .errorBadResponse => some .failureBadResponse
  | .errorInternalFailure => some .failureInternalError
  | .okFinal => some .success
  | .okRepeat => none
  | .okContinue => none

/-- `IMasterTask::TaskState`: from when on the task may run. -/
structure ScheduleState where
  expiration : Int
  disabled : Bool
  deriving DecidableEq, Repr

namespace ScheduleState

/-- The task is due. -/
def immediately : ScheduleState := ⟨0, false⟩

/-- The task is due when it is demanded. -/
def infinite : ScheduleState := ⟨MonotonicTimestamp.max, false⟩

/-- The task is due at a time. -/
def retry (exp : Int) : ScheduleState := ⟨exp, false⟩

/-- The task is not done any more, unless it is demanded. -/
def disable : ScheduleState := ⟨MonotonicTimestamp.max, true⟩

end ScheduleState

/-- What the surroundings of a master answer while it handles an event: the clock, the lock, the
application, and the builder of the user's request. -/
structure Surroundings where
  /-- `pExecutor->GetTime()`. -/
  now : Int
  /-- `pTaskLock->Acquire`. -/
  acquires : Bool
  assignClassDuringStartup : Bool
  /-- `HeaderBuilderT` of the task, or what `ConfigureAssignClassRequest` writes. -/
  builder : HeaderWriter → HeaderWriter × Bool
  /-- `pApplication->Now()` when a response is processed. -/
  utcResponse : UInt64
  /-- `pApplication->Now()` when a request is built. -/
  utcRequest : UInt64

/-- A call of the callback that the user gave with a command or a restart. -/
inductive UserCallback where
  | command (result : TaskCompletion) (commands : CommandSet)
  | restart (result : TaskCompletion) (duration : Int)
  deriving DecidableEq, Repr

/-- The values that the SOE handler was given. -/
abbrev Measurements := List (HeaderInfo × Values)

/-! ## Validation of responses -/

/-- The response is a single fragment. -/
def validateSingleResponse (header : APDUResponseHeader) : Bool :=
  header.control.FIR && header.control.FIN

/-- The response has no objects. -/
def validateNoObjects (objects : List UInt8) : Bool := objects.isEmpty

/-- The request was not refused. -/
def validateInternalIndications (header : APDUResponseHeader) : Bool := !header.IIN.hasRequestError

/-- The response has one fragment, no objects and no refusal. -/
def validateNullResponse (header : APDUResponseHeader) (objects : List UInt8) : Bool :=
  validateSingleResponse header && validateNoObjects objects && validateInternalIndications header

/-- The answer of the tasks that expect a null response. -/
def processNullResponse (header : APDUResponseHeader) (objects : List UInt8) : ResponseResult :=
  if validateNullResponse header objects then .okFinal else .errorBadResponse

/-! ## Tasks at the start of a session -/

namespace EnableUnsolicitedTask

/-- The classes of events that the configuration names. -/
def buildRequest (enabledClasses : ClassField) (request : APDURequest) (seq : AppSeqNum) :
    APDURequest :=
  build.enableUnsolicited request enabledClasses.onlyEventClasses seq

/-- Done once a session; tried again after a timeout. -/
def onTaskComplete (retryPeriod : Int) (result : TaskCompletion) (now : Int) : ScheduleState :=
  match result with
  | .failureBadResponse => .disable
  | .failureNoComms => .immediately
  | .failureResponseTimeout => .retry (MonotonicTimestamp.add now retryPeriod)
  | _ => .infinite

end EnableUnsolicitedTask

namespace ClearRestartTask

/-- Only FIR and FIN matter, and that the restart bit is cleared. -/
def processResponse (response : APDUResponseHeader) : ResponseResult :=
  if validateSingleResponse response then
    if response.IIN.isSet .deviceRestart then .errorBadResponse else .okFinal
  else .errorBadResponse

/-- Done once a restart; tried again after a timeout. -/
def onTaskComplete (retryPeriod : Int) (result : TaskCompletion) (now : Int) : ScheduleState :=
  match result with
  | .failureNotAuthorized | .failureBadResponse => .disable
  | .failureResponseTimeout => .retry (MonotonicTimestamp.add now retryPeriod)
  | _ => .infinite

end ClearRestartTask

namespace AssignClassTask

/-- The application writes the headers; the task fails if they do not fit. -/
def buildRequest (a : Surroundings) (request : APDURequest) (seq : AppSeqNum) :
    APDURequest × Bool :=
  let request := (request.setControl (.request seq)).setFunction .assignClass
  let (writer, success) := a.builder request.getWriter
  (request.withWriter writer, success)

/-- Done once a session; tried again after a timeout. -/
def onTaskComplete (retryPeriod : Int) (result : TaskCompletion) (now : Int) : ScheduleState :=
  match result with
  | .failureNoComms => .immediately
  | .failureResponseTimeout => .retry (MonotonicTimestamp.add now retryPeriod)
  | _ => .infinite

end AssignClassTask

namespace StartupIntegrityPoll

/-- A READ of the classes that the configuration names. -/
def buildRequest (classes : ClassField) (request : APDURequest) (seq : AppSeqNum) : APDURequest :=
  ((build.readIntegrity request classes seq).setFunction .read).setControl (.request seq)

/-- Done once a session, whatever becomes of it. -/
def onTaskComplete (result : TaskCompletion) : ScheduleState :=
  match result with
  | .failureNoComms => .immediately
  | .success => .infinite
  | _ => .infinite

end StartupIntegrityPoll

namespace DisableUnsolicitedTask

/-- All classes of events. -/
def buildRequest (request : APDURequest) (seq : AppSeqNum) : APDURequest :=
  build.disableUnsolicited request seq

/-- Done once a session; tried again after a timeout. -/
def onTaskComplete (retryPeriod : Int) (result : TaskCompletion) (now : Int) : ScheduleState :=
  match result with
  | .failureBadResponse => .disable
  | .failureNoComms => .immediately
  | .failureResponseTimeout => .retry (MonotonicTimestamp.add now retryPeriod)
  | _ => .infinite

end DisableUnsolicitedTask

/-! ## Time synchronisation -/

namespace TimeSyncHandler

/-- The time delay, when it is the only value. -/
def processHeader : APDUHandler.Process (Option UInt16) := fun _ time header =>
  match header with
  | .countOf _ _ (.group52Var2 values) =>
    match values with
    | [value] => (some value, .empty)
    | _ => (time, .ofBit .paramError)
  | _ => APDUHandler.processUnsupportedHeader time

/-- The response has one header, the delay in milliseconds. -/
def isAllowed : APDUParser.WhiteList := fun headerCount gv _ =>
  headerCount == 0 && gv == .group52Var2

/-- `GetTimeDelay`. -/
def getTimeDelay (handler : APDUHandler (Option UInt16)) : Option UInt16 :=
  if handler.errors.any then none else handler.state

end TimeSyncHandler

namespace SerialTimeSyncTask

/-- The delay measurement first, then the time; what was the time is kept with the first. -/
def buildRequest (a : Surroundings) (delay : Int) (start : UInt64) (request : APDURequest)
    (seq : AppSeqNum) : UInt64 × APDURequest :=
  if delay < 0 then (a.utcRequest, build.measureDelay request seq)
  else
    let request := (request.setFunction .write).setControl (.request seq)
    let time : DNPTime := a.utcRequest + UInt64.ofInt delay
    (start, request.withWriter
      (request.getWriter.writeSingleValue .uint8 .uint8Cnt group50Var1 time).1)

/-- Done when it is demanded. -/
def onTaskComplete (result : TaskCompletion) : ScheduleState :=
  match result with
  | .failureBadResponse => .disable
  | _ => .infinite

/-- Half of what the round trip took beyond the turn around of the outstation. -/
def measuredDelay (now start : UInt64) (rtuTurnAroundTime : UInt16) : Int :=
  let sendReceiveTime := now - start
  if sendReceiveTime ≥ rtuTurnAroundTime.toUInt64 then
    ((sendReceiveTime - rtuTurnAroundTime.toUInt64) / 2).toNat
  else 0

/-- Keep half of the time that the outstation did not need itself; then the time can be written. -/
def onResponseDelayMeas (a : Surroundings) (delay : Int) (start : UInt64)
    (response : APDUResponseHeader) (objects : List UInt8) : Int × ResponseResult :=
  if validateSingleResponse response then
    let (result, headers) := APDUParser.parse objects true TimeSyncHandler.isAllowed
    if result = .ok then
      match TimeSyncHandler.getTimeDelay
          (APDUHandler.onHeaders TimeSyncHandler.processHeader none headers) with
      | some rtuTurnAroundTime => (measuredDelay a.utcResponse start rtuTurnAroundTime, .okRepeat)
      | none => (delay, .errorBadResponse)
    else (delay, .errorBadResponse)
  else (delay, .errorBadResponse)

/-- The first response has the delay, the second one nothing. -/
def processResponse (a : Surroundings) (delay : Int) (start : UInt64)
    (response : APDUResponseHeader) (objects : List UInt8) : Int × ResponseResult :=
  if delay < 0 then onResponseDelayMeas a delay start response objects
  else (delay, processNullResponse response objects)

end SerialTimeSyncTask

/-! ## Polls -/

namespace PollTaskBase

/-- Hand the measurements over; the poll ends with the last fragment. -/
def processMeasurements (rxCount : UInt16) (header : APDUResponseHeader) (objects : List UInt8) :
    UInt16 × ResponseResult × Measurements :=
  let (result, values) := MeasurementHandler.processMeasurements objects
  (rxCount + 1,
    if result = .ok then if header.control.FIN then .okFinal else .okContinue
    else .errorBadResponse,
    values)

/-- The first fragment, and no other, is marked as the first. -/
def processResponse (rxCount : UInt16) (header : APDUResponseHeader) (objects : List UInt8) :
    UInt16 × ResponseResult × Measurements :=
  if header.control.FIR then
    if rxCount > 0 then (rxCount, .errorBadResponse, [])
    else processMeasurements rxCount header objects
  else if rxCount > 0 then processMeasurements rxCount header objects
  else (rxCount, .errorBadResponse, [])

end PollTaskBase

namespace EventScanTask

/-- A READ of the classes that are demanded. -/
def buildRequest (classes : ClassField) (request : APDURequest) (seq : AppSeqNum) : APDURequest :=
  build.classRequest request .read classes seq

/-- Done when it is demanded; tried again after a timeout. -/
def onTaskComplete (retryPeriod : Int) (result : TaskCompletion) (now : Int) : ScheduleState :=
  match result with
  | .failureBadResponse => .disable
  | .failureResponseTimeout => .retry (MonotonicTimestamp.add now retryPeriod)
  | _ => .infinite

end EventScanTask

/-- A request whose objects the user writes: `UserPollTask` and `SimpleRequestTaskBase`. -/
def buildUserRequest (a : Surroundings) (func : FunctionCode) (request : APDURequest)
    (seq : AppSeqNum) : APDURequest × Bool :=
  let request := (request.setFunction func).setControl (.request seq)
  let (writer, success) := a.builder request.getWriter
  (request.withWriter writer, success)

namespace UserPollTask

/-- Done again after the period; without one it is done once. -/
def onTaskComplete (period : Int) (result : TaskCompletion) (now : Int) : ScheduleState :=
  match result with
  | .failureBadResponse => .disable
  | .failureNoComms => .immediately
  | _ => if period < 0 then .infinite else .retry (MonotonicTimestamp.add now period)

end UserPollTask

/-! ## Commands and other requests of the user -/

namespace CommandTask

/-- Each function code is used for one request. -/
def buildRequest (functionCodes : List FunctionCode) (commands : CommandSet)
    (request : APDURequest) (seq : AppSeqNum) : List FunctionCode × APDURequest × Bool :=
  match functionCodes with
  | [] => ([], request, false)
  | code :: codes =>
    let request := (request.setFunction code).setControl (.request seq)
    let (writer, written) := CommandSetOps.write request.getWriter commands
    (codes, request.withWriter writer, written)

/-- The response to the last of the requests is that to an operate. -/
def processObjects (functionCodes : List FunctionCode) (commands : CommandSet)
    (objects : List UInt8) : CommandSet × ResponseResult :=
  if functionCodes.isEmpty then
    match CommandSetOps.processOperateResponse commands objects with
    | (commands, .failParse) => (commands, .errorBadResponse)
    | (commands, .ok) => (commands, .okFinal)
  else
    match CommandSetOps.processSelectResponse commands objects with
    | (commands, .ok) => (commands, .okRepeat)
    | (commands, .failSelect) => (commands, .okFinal)
    | (commands, .failParse) => (commands, .errorBadResponse)

/-- A response is applied to the commands, and selects or operates them. -/
def processResponse (functionCodes : List FunctionCode) (commands : CommandSet)
    (header : APDUResponseHeader) (objects : List UInt8) : CommandSet × ResponseResult :=
  if validateSingleResponse header then processObjects functionCodes commands objects
  else (commands, .errorBadResponse)

end CommandTask

namespace RestartOperationTask

/-- The response has one header, the delay in seconds or milliseconds. -/
def isAllowed : APDUParser.WhiteList := fun headerCount gv _ =>
  headerCount == 0 && (gv == .group52Var1 || gv == .group52Var2)

/-- The duration in milliseconds. -/
def processHeader : APDUHandler.Process Int := fun _ duration header =>
  match header with
  | .countOf _ _ (.group52Var1 values) =>
    match values with
    | [value] => (1000 * value.toNat, .empty)
    | _ => (duration, .ofBit .paramError)
  | .countOf _ _ (.group52Var2 values) =>
    match values with
    | [value] => (value.toNat, .empty)
    | _ => (duration, .ofBit .paramError)
  | _ => APDUHandler.processUnsupportedHeader duration

/-- Keep the delay that the outstation says it needs. -/
def processResponse (handler : APDUHandler Int) (header : APDUResponseHeader)
    (objects : List UInt8) : APDUHandler Int × ResponseResult :=
  if !(validateSingleResponse header && validateInternalIndications header) then
    (handler, .errorBadResponse)
  else if objects.isEmpty then (handler, .errorBadResponse)
  else
    let (result, headers) := APDUParser.parse objects true isAllowed
    (headers.foldl (APDUHandler.onHeader processHeader) handler,
      if result = .ok then .okFinal else .errorBadResponse)

/-- What the user's callback is given. -/
def callback (handler : APDUHandler Int) (result : TaskCompletion) : UserCallback :=
  .restart (if handler.errors.any then .failureBadResponse else result) handler.state

end RestartOperationTask

/-! ## Tasks of any class -/

/-- A task with the fields of its class. -/
inductive TaskBody where
  | enableUnsolicited (enabledClasses : ClassField) (retryPeriod : Int)
  | clearRestart (retryPeriod : Int)
  | assignClass (retryPeriod : Int)
  | startupIntegrity (classes : ClassField) (rxCount : UInt16)
  | disableUnsolicited (enabled : Bool) (retryPeriod : Int)
  /-- A negative delay has not been measured yet; the start is the time of the measurement. -/
  | serialTimeSync (delay : Int) (start : UInt64)
  | eventScan (classes : ClassField) (retryPeriod : Int) (rxCount : UInt16)
  | userPoll (recurring : Bool) (period : Int) (rxCount : UInt16)
  | command (functionCodes : List FunctionCode) (commands : CommandSet)
  | restartOperation (func : FunctionCode) (handler : APDUHandler Int)
  | emptyResponse (func : FunctionCode)

namespace TaskBody

/-- The lowest number goes first. -/
def priority : TaskBody → Int
  | enableUnsolicited _ _ => priority.ENABLE_UNSOLICITED
  | clearRestart _ => priority.CLEAR_RESTART
  | assignClass _ => priority.ASSIGN_CLASS
  | startupIntegrity _ _ => priority.INTEGRITY_POLL
  | disableUnsolicited _ _ => priority.DISABLE_UNSOLICITED
  | serialTimeSync _ _ => priority.TIME_SYNC
  | eventScan _ _ _ => priority.EVENT_SCAN
  | userPoll _ _ _ => priority.USER_POLL
  | command _ _ => priority.COMMAND
  | restartOperation _ _ => priority.USER_REQUEST
  | emptyResponse _ => priority.USER_REQUEST

/-- Tasks of lower priority have to wait for this one. -/
def blocksLowerPriority : TaskBody → Bool
  | userPoll _ _ _ | command _ _ | restartOperation _ _ | emptyResponse _ => false
  | _ => true

/-- The task stays in the scheduler when it is done. -/
def isRecurring : TaskBody → Bool
  | userPoll recurring _ _ => recurring
  | command _ _ | restartOperation _ _ | emptyResponse _ => false
  | _ => true

/-- The configuration asks for the task. -/
def isEnabled (a : Surroundings) : TaskBody → Bool
  | enableUnsolicited classes _ => classes.hasEventClass
  | assignClass _ => a.assignClassDuringStartup
  | startupIntegrity classes _ => classes.hasAnyClass
  | disableUnsolicited enabled _ => enabled
  | eventScan classes _ _ => classes.hasEventClass
  | _ => true

/-- `Initialize()`, when the task starts. -/
def onStart : TaskBody → TaskBody
  | startupIntegrity classes _ => startupIntegrity classes 0
  | eventScan classes retryPeriod _ => eventScan classes retryPeriod 0
  | userPoll recurring period _ => userPoll recurring period 0
  | serialTimeSync _ start => serialTimeSync (-1) start
  | body => body

/-- The request, and whether it could be built. -/
def buildRequest (a : Surroundings) (request : APDURequest) (seq : AppSeqNum) :
    TaskBody → TaskBody × APDURequest × Bool
  | enableUnsolicited classes retryPeriod =>
    (enableUnsolicited classes retryPeriod,
      EnableUnsolicitedTask.buildRequest classes request seq, true)
  | clearRestart retryPeriod =>
    (clearRestart retryPeriod, build.clearRestartIIN request seq, true)
  | assignClass retryPeriod =>
    (assignClass retryPeriod, AssignClassTask.buildRequest a request seq)
  | startupIntegrity classes rxCount =>
    (startupIntegrity classes rxCount, StartupIntegrityPoll.buildRequest classes request seq, true)
  | disableUnsolicited enabled retryPeriod =>
    (disableUnsolicited enabled retryPeriod, DisableUnsolicitedTask.buildRequest request seq, true)
  | serialTimeSync delay start =>
    let (start, request) := SerialTimeSyncTask.buildRequest a delay start request seq
    (serialTimeSync delay start, request, true)
  | eventScan classes retryPeriod rxCount =>
    (eventScan classes retryPeriod rxCount, EventScanTask.buildRequest classes request seq, true)
  | userPoll recurring period _ =>
    (userPoll recurring period 0, buildUserRequest a .read request seq)
  | command functionCodes commands =>
    let (codes, built) := CommandTask.buildRequest functionCodes commands request seq
    (command codes commands, built)
  | restartOperation func handler =>
    -- the request has no objects
    (restartOperation func handler, (request.setFunction func).setControl (.request seq), true)
  | emptyResponse func => (emptyResponse func, buildUserRequest a func request seq)

/-- What the task makes of a response, and the measurements it hands over. -/
def processResponse (a : Surroundings) (header : APDUResponseHeader) (objects : List UInt8) :
    TaskBody → TaskBody × ResponseResult × Measurements
  | clearRestart retryPeriod =>
    (clearRestart retryPeriod, ClearRestartTask.processResponse header, [])
  | startupIntegrity classes rxCount =>
    let (rxCount, answer) := PollTaskBase.processResponse rxCount header objects
    (startupIntegrity classes rxCount, answer)
  | eventScan classes retryPeriod rxCount =>
    let (rxCount, answer) := PollTaskBase.processResponse rxCount header objects
    (eventScan classes retryPeriod rxCount, answer)
  | userPoll recurring period rxCount =>
    let (rxCount, answer) := PollTaskBase.processResponse rxCount header objects
    (userPoll recurring period rxCount, answer)
  | serialTimeSync delay start =>
    let (delay, result) := SerialTimeSyncTask.processResponse a delay start header objects
    (serialTimeSync delay start, result, [])
  | command functionCodes commands =>
    let (commands, result) := CommandTask.processResponse functionCodes commands header objects
    (command functionCodes commands, result, [])
  | restartOperation func handler =>
    let (handler, result) := RestartOperationTask.processResponse handler header objects
    (restartOperation func handler, result, [])
  | body => (body, processNullResponse header objects, [])

/-- When the task is due after it was done. -/
def onTaskComplete (result : TaskCompletion) (now : Int) : TaskBody → ScheduleState
  | enableUnsolicited _ retryPeriod => EnableUnsolicitedTask.onTaskComplete retryPeriod result now
  | clearRestart retryPeriod => ClearRestartTask.onTaskComplete retryPeriod result now
  | assignClass retryPeriod => AssignClassTask.onTaskComplete retryPeriod result now
  | startupIntegrity _ _ => StartupIntegrityPoll.onTaskComplete result
  | disableUnsolicited _ retryPeriod =>
    DisableUnsolicitedTask.onTaskComplete retryPeriod result now
  | serialTimeSync _ _ => SerialTimeSyncTask.onTaskComplete result
  | eventScan _ retryPeriod _ => EventScanTask.onTaskComplete retryPeriod result now
  | userPoll _ period _ => UserPollTask.onTaskComplete period result now
  | command _ _ => .infinite
  | restartOperation _ _ => .infinite
  | emptyResponse _ => .infinite

/-- The callback that a completion calls. -/
def completionCallback (result : TaskCompletion) : TaskBody → Option UserCallback
  | command _ commands => some (.command result commands)
  | restartOperation _ handler => some (RestartOperationTask.callback handler result)
  | _ => none

/-- The expiration a task is made with. -/
def initialExpiration : TaskBody → Int
  | enableUnsolicited _ _ => 0
  | clearRestart _ => MonotonicTimestamp.max
  | assignClass _ => 0
  | startupIntegrity _ _ => 0
  | disableUnsolicited _ _ => MonotonicTimestamp.min
  | serialTimeSync _ _ => MonotonicTimestamp.max
  | eventScan _ _ _ => MonotonicTimestamp.max
  | userPoll _ _ _ => 0
  | command _ _ => MonotonicTimestamp.min
  | restartOperation _ _ => MonotonicTimestamp.min
  | emptyResponse _ => MonotonicTimestamp.min

end TaskBody

/-- What all tasks share. -/
structure IMasterTask where
  body : TaskBody
  state : ScheduleState
  taskStartExpiration : Int

namespace IMasterTask

/-- A task that was never started. -/
def ofBody (body : TaskBody) : IMasterTask where
  body := body
  state := .retry body.initialExpiration
  taskStartExpiration := MonotonicTimestamp.max

/-- When the task is due; a task that is not enabled never is. -/
def expirationTime (a : Surroundings) (task : IMasterTask) : Int :=
  if !task.state.disabled && task.body.isEnabled a then task.state.expiration
  else MonotonicTimestamp.max

/-- The task fails if it has not started at a time. -/
def configureStartExpiration (task : IMasterTask) (time : Int) : IMasterTask :=
  { task with taskStartExpiration := time }

/-- `OnStart`. -/
def start (task : IMasterTask) : IMasterTask := { task with body := task.body.onStart }

/-- The task is due, and not disabled. -/
def demand (task : IMasterTask) : IMasterTask := { task with state := .immediately }

/-- The state that `OnTaskComplete` gives. -/
def complete (task : IMasterTask) (result : TaskCompletion) (now : Int) : IMasterTask :=
  { task with state := task.body.onTaskComplete result now }

end IMasterTask

namespace TaskBody

/-- A task of a class stays one, with the settings it was made with. -/
def SameClass : TaskBody → TaskBody → Prop
  | enableUnsolicited c r, body => body = enableUnsolicited c r
  | clearRestart r, body => body = clearRestart r
  | assignClass r, body => body = assignClass r
  | startupIntegrity c _, body => ∃ n, body = startupIntegrity c n
  | disableUnsolicited e r, body => body = disableUnsolicited e r
  | serialTimeSync _ _, body => ∃ d s, body = serialTimeSync d s
  | eventScan c r _, body => ∃ n, body = eventScan c r n
  | userPoll r p _, body => ∃ n, body = userPoll r p n
  | command _ _, body => ∃ codes set, body = command codes set
  | restartOperation f _, body => ∃ h, body = restartOperation f h
  | emptyResponse f, body => body = emptyResponse f

theorem SameClass.refl (body : TaskBody) : SameClass body body := by
  cases body
  case enableUnsolicited | clearRestart | assignClass | disableUnsolicited | emptyResponse =>
    exact rfl
  case startupIntegrity | eventScan | userPoll | restartOperation => exact ⟨_, rfl⟩
  case serialTimeSync | command => exact ⟨_, _, rfl⟩

theorem SameClass.trans {b b' b'' : TaskBody} (h : SameClass b b') (h' : SameClass b' b'') :
    SameClass b b'' := by
  cases b
  case enableUnsolicited | clearRestart | assignClass | disableUnsolicited | emptyResponse =>
    obtain rfl := h
    exact h'
  case startupIntegrity | eventScan | userPoll | restartOperation =>
    obtain ⟨_, rfl⟩ := h
    exact h'
  case serialTimeSync | command =>
    obtain ⟨_, _, rfl⟩ := h
    exact h'

theorem sameClass_onStart (body : TaskBody) : SameClass body body.onStart := by
  cases body
  case startupIntegrity | eventScan | userPoll => exact ⟨_, rfl⟩
  case serialTimeSync => exact ⟨_, _, rfl⟩
  all_goals exact SameClass.refl _

theorem sameClass_buildRequest (a : Surroundings) (request : APDURequest) (seq : AppSeqNum)
    (body : TaskBody) : SameClass body (body.buildRequest a request seq).1 := by
  cases body <;> simp [SameClass, buildRequest]

theorem sameClass_processResponse (a : Surroundings) (header : APDUResponseHeader)
    (objects : List UInt8) (body : TaskBody) :
    SameClass body (body.processResponse a header objects).1 := by
  cases body <;> simp [SameClass, processResponse]

/-- What does not depend on the counters and results of a task is the same throughout its class. -/
theorem SameClass.map_eq {α : Type} (f : TaskBody → α) {b b' : TaskBody} (h : SameClass b b')
    (hintegrity : ∀ c n m, f (startupIntegrity c n) = f (startupIntegrity c m))
    (hscan : ∀ c r n m, f (eventScan c r n) = f (eventScan c r m))
    (hpoll : ∀ r p n m, f (userPoll r p n) = f (userPoll r p m))
    (hsync : ∀ d d' s s', f (serialTimeSync d s) = f (serialTimeSync d' s'))
    (hcommand : ∀ c c' w w', f (command c w) = f (command c' w'))
    (hrestart : ∀ o t t', f (restartOperation o t) = f (restartOperation o t')) : f b' = f b := by
  cases b
  case enableUnsolicited | clearRestart | assignClass | disableUnsolicited | emptyResponse =>
    obtain rfl := h
    rfl
  case startupIntegrity =>
    obtain ⟨_, rfl⟩ := h
    exact hintegrity _ _ _
  case eventScan =>
    obtain ⟨_, rfl⟩ := h
    exact hscan _ _ _ _
  case userPoll =>
    obtain ⟨_, rfl⟩ := h
    exact hpoll _ _ _ _
  case restartOperation =>
    obtain ⟨_, rfl⟩ := h
    exact hrestart _ _ _
  case serialTimeSync =>
    obtain ⟨_, _, rfl⟩ := h
    exact hsync _ _ _ _
  case command =>
    obtain ⟨_, _, rfl⟩ := h
    exact hcommand _ _ _ _

theorem SameClass.isRecurring {b b' : TaskBody} (h : SameClass b b') :
    b'.isRecurring = b.isRecurring :=
  h.map_eq TaskBody.isRecurring (fun _ _ _ => rfl) (fun _ _ _ _ => rfl) (fun _ _ _ _ => rfl)
    (fun _ _ _ _ => rfl) (fun _ _ _ _ => rfl) fun _ _ _ => rfl

end TaskBody
end Master
end Dnp3
