import Dnp3.Library.Runs
import Dnp3.Master.MasterTask
import Dnp3.Master.MultidropTaskLock
import Mathlib.Logic.Function.Basic

/-!
# The context of a master

A master runs one task at a time.  The tasks that are to run wait with the scheduler; the active
task is idle, waits for the lock or for the transmission before its request, or waits for a
response.  Responses are confirmed when they ask for it, through a queue that is drained between
transmissions.

The state is that of `MContext` with the tasks it refers to and the actions it has posted.  The
number of a received response, kept with its confirm, and the log of what happened are for
statements about runs only: nothing the master does depends on them.  An event comes with what the
surroundings answer while it is handled.  Callbacks do not call the master back.
-/

namespace Dnp3
namespace Master

open App Outstation

/-- The configuration of a master, times in milliseconds. -/
structure MasterParams where
  responseTimeout : Int
  disableUnsolOnStartup : Bool
  unsolClassMask : ClassField
  startupIntegrityClassMask : ClassField
  integrityOnEventOverflowIIN : Bool
  eventScanOnEventsAvailableClassMask : ClassField
  taskRetryPeriod : Int
  taskStartTimeout : Int
  maxTxFragSize : Nat

/-- The tasks of a master: its own, the recurring scans that were added, and what the user asked
for once, in the order they were made. -/
inductive TaskRef where
  | enableUnsol
  | clearRestart
  | assignClass
  | startupIntegrity
  | disableUnsol
  | timeSync
  | eventScan
  | bound (n : Nat)
  | adhoc (n : Nat)
  deriving DecidableEq, Repr

/-- An action that the executor will run. -/
inductive Posted where
  | checkForTask
  /-- `MasterScan::Demand`. -/
  | demand (scan : Nat)
  deriving DecidableEq, Repr

/-- What happened. -/
inductive Entry where
  | up
  | down
  | received (id : Nat) (header : APDUResponseHeader) (objects : List UInt8)
  /-- The SOE handler is given the values of a response. -/
  | measurements (id : Nat) (values : Measurements)
  /-- A request is transmitted. -/
  | request (task : TaskRef) (apdu : List UInt8)
  /-- A confirm of a response is transmitted. -/
  | confirm (id : Nat) (header : APDUHeader)
  /-- A task is passed to `ScheduleAdhocTask`. -/
  | scheduled (task : TaskRef)
  | taskStart (task : TaskRef)
  | demand (task : TaskRef)
  | userCallback (task : TaskRef) (call : UserCallback)
  /-- `NotifyResult`. -/
  | complete (task : TaskRef) (result : TaskCompletion)
  deriving DecidableEq

/-- `MContext`. -/
structure MContext where
  params : MasterParams
  isOnline : Bool
  isSending : Bool
  solSeq : AppSeqNum
  pActiveTask : Option TaskRef
  /-- The times when the timers fire. -/
  responseTimer : Option Int
  scheduleTimer : Option Int
  taskStartTimeoutTimer : Option Int
  /-- A task that has not been made yet is arbitrary. -/
  tasks : TaskRef → IMasterTask
  boundTasks : Nat
  adhocTasks : Nat
  scheduler : List TaskRef
  /-- The confirms, each with the number of the response it is for. -/
  confirmQueue : List (Nat × APDUHeader)
  txBuffer : List UInt8
  tstate : TaskState
  posted : List Posted
  received : Nat
  log : List Entry

namespace MContext

/-- The tasks as a master makes them. -/
def initialTasks (params : MasterParams) : TaskRef → IMasterTask
  | .enableUnsol => .ofBody (.enableUnsolicited params.unsolClassMask params.taskRetryPeriod)
  | .clearRestart => .ofBody (.clearRestart params.taskRetryPeriod)
  | .assignClass => .ofBody (.assignClass params.taskRetryPeriod)
  | .startupIntegrity => .ofBody (.startupIntegrity params.startupIntegrityClassMask 0)
  | .disableUnsol =>
    .ofBody (.disableUnsolicited params.disableUnsolOnStartup params.taskRetryPeriod)
  | .timeSync => .ofBody (.serialTimeSync (-1) 0)
  | .eventScan =>
    .ofBody (.eventScan params.eventScanOnEventsAvailableClassMask.onlyEventClasses
      params.taskRetryPeriod 0)
  | .bound _ | .adhoc _ => .ofBody (.emptyResponse .unknown)

/-- A master that is offline and has sent nothing. -/
def initial (params : MasterParams) : MContext where
  params := params
  isOnline := false
  isSending := false
  solSeq := 0
  pActiveTask := none
  responseTimer := none
  scheduleTimer := none
  taskStartTimeoutTimer := none
  tasks := initialTasks params
  boundTasks := 0
  adhocTasks := 0
  scheduler := []
  confirmQueue := []
  txBuffer := List.replicate params.maxTxFragSize 0
  tstate := .idle
  posted := []
  received := 0
  log := []

/-- Remember what the master did. -/
def note (s : MContext) (entry : Entry) : MContext := { s with log := s.log ++ [entry] }

/-- A task changes. -/
def setTask (s : MContext) (ref : TaskRef) (task : IMasterTask) : MContext :=
  { s with tasks := Function.update s.tasks ref task }

/-! ## Tasks that end or are demanded -/

/-- `OnTaskComplete` and `NotifyResult`. -/
def endTask (s : MContext) (a : Surroundings) (ref : TaskRef) (result : TaskCompletion) :
    MContext :=
  let task := s.tasks ref
  let s := s.setTask ref (task.complete result a.now)
  let s :=
    match task.body.completionCallback result with
    | some call => s.note (.userCallback ref call)
    | none => s
  s.note (.complete ref result)

/-- A task is demanded, which may make it due. -/
def demand (s : MContext) (ref : TaskRef) : MContext :=
  (s.setTask ref (s.tasks ref).demand).note (.demand ref)

/-! ## The scheduler -/

/-- The executor looks for a task later. -/
def postCheckForTask (s : MContext) : MContext := { s with posted := s.posted ++ [.checkForTask] }

/-- `RecalculateTaskStartTimeout`. -/
def recalculateTaskStartTimeout (s : MContext) : MContext :=
  let min := s.scheduler.foldl (fun min ref =>
    if !(s.tasks ref).body.isRecurring && (s.tasks ref).taskStartExpiration < min then
      (s.tasks ref).taskStartExpiration
    else min) MonotonicTimestamp.max
  { s with taskStartTimeoutTimer := some min }

/-- A task goes to the scheduler, which looks at the start timeouts again. -/
def schedule (s : MContext) (ref : TaskRef) : MContext :=
  { s with scheduler := s.scheduler ++ [ref] }.recalculateTaskStartTimeout

/-- What the scheduler sees of a task; the filter lets every task run. -/
def taskView (s : MContext) (a : Surroundings) (ref : TaskRef) : TaskView where
  priority := (s.tasks ref).body.priority
  blocksLowerPriority := (s.tasks ref).body.blocksLowerPriority
  expirationTime := (s.tasks ref).expirationTime a
  canRun := true

/-- `IsTimedOut`. -/
def isTimedOut (s : MContext) (a : Surroundings) (ref : TaskRef) : Bool :=
  !((s.tasks ref).body.isRecurring || (s.tasks ref).taskStartExpiration > a.now)

/-- The tasks that are timed out end one after the other; the others stay. -/
def checkTaskStartTimeout (s : MContext) (a : Surroundings) : MContext :=
  let ended := (s.scheduler.filter (s.isTimedOut a)).foldl
    (fun s ref => s.endTask a ref .failureStartTimeout) s
  { ended with scheduler := s.scheduler.filter fun ref => !s.isTimedOut a ref }

/-! ## Transmissions -/

/-- `Transmit`. -/
def transmit (s : MContext) (entry : Entry) : MContext := { s with isSending := true }.note entry

/-- Send the next confirm, if nothing is being sent. -/
def checkConfirmTransmit (s : MContext) : MContext :=
  match s.isSending, s.confirmQueue with
  | false, (id, confirm) :: queue =>
    let wrapper := ((APDURequest.create s.txBuffer).setFunction confirm.function).setControl
      confirm.control
    { { s with txBuffer := wrapper.slice.mem }.transmit (.confirm id confirm) with
      confirmQueue := queue }
  | _, _ => s

/-- A confirm is sent when its turn comes. -/
def queueConfirm (s : MContext) (id : Nat) (header : APDUHeader) : MContext :=
  { s with confirmQueue := s.confirmQueue ++ [(id, header)] }.checkConfirmTransmit

/-- The timer is left alone when it runs. -/
def startResponseTimer (s : MContext) (a : Surroundings) : MContext :=
  { s with
    responseTimer := s.responseTimer.or
      (some (MonotonicTimestamp.add a.now s.params.responseTimeout)) }

/-! ## The active task -/

/-- A task that recurs goes back to the scheduler. -/
def completeActiveTask (s : MContext) : MContext :=
  match s.pActiveTask with
  | none => s
  | some ref =>
    let s := { s with pActiveTask := none }
    (if (s.tasks ref).body.isRecurring then s.schedule ref else s).postCheckForTask

/-- Send the next request of the active task, when the lock is there. -/
def resumeActiveTask (s : MContext) (a : Surroundings) : MContext :=
  if a.acquires then
    match s.pActiveTask with
    | none => s
    | some ref =>
      let task := s.tasks ref
      let (body, request, built) :=
        task.body.buildRequest a (.create s.txBuffer) s.solSeq
      let s := { s.setTask ref { task with body := body } with txBuffer := request.slice.mem }
      if built then
        { (s.startResponseTimer a).transmit (.request ref request.toRSlice) with
          tstate := .waitForResponse }
      else
        { (s.endTask a ref .failureInternalError).completeActiveTask with tstate := .idle }
  else { s with tstate := .taskReady }

/-- The task is taken from the scheduler, which keeps the rest. -/
def beginNewTask (s : MContext) (a : Surroundings) (ref : TaskRef) (rest : List TaskRef) :
    MContext :=
  let s := { s with pActiveTask := some ref, scheduler := rest }
  ((s.setTask ref (s.tasks ref).start).note (.taskStart ref)).resumeActiveTask a

/-- Begin the task that the scheduler finds, if nothing is being sent. -/
def startTaskIdle (s : MContext) (a : Surroundings) : MContext :=
  if s.isSending then s
  else
    match MasterScheduler.getNext (s.taskView a) a.now s.scheduler with
    | .start ref rest => s.beginNewTask a ref rest
    | .wait next =>
      { s with scheduleTimer := if next = MonotonicTimestamp.max then s.scheduleTimer
                                else some next }

/-- Send the request of a task that was begun, if nothing is being sent. -/
def startTaskReady (s : MContext) (a : Surroundings) : MContext :=
  if s.isSending then { s with tstate := .taskReady } else s.resumeActiveTask a

/-- `OnStartEvent`, when the master is online. -/
def checkForTask (s : MContext) (a : Surroundings) : MContext :=
  if s.isOnline then
    match s.tstate with
    | .idle => s.startTaskIdle a
    | .taskReady => s.startTaskReady a
    | .waitForResponse => s
  else s

/-! ## Responses -/

/-- What a response demands. -/
def demanded (params : MasterParams) (iin : IINField) : List TaskRef :=
  (if iin.isSet .deviceRestart then [.clearRestart, .assignClass, .startupIntegrity, .enableUnsol]
    else []) ++
  (if iin.isSet .eventBufferOverflow && params.integrityOnEventOverflowIIN then
    [.startupIntegrity] else []) ++
  (if iin.isSet .needTime then [.timeSync] else []) ++
  (if (iin.isSet .class1Events && params.eventScanOnEventsAvailableClassMask.hasClass1) ||
      (iin.isSet .class2Events && params.eventScanOnEventsAvailableClassMask.hasClass2) ||
      (iin.isSet .class3Events && params.eventScanOnEventsAvailableClassMask.hasClass3) then
    [.eventScan] else [])

/-- The indications of a response demand tasks. -/
def processIIN (s : MContext) (iin : IINField) : MContext :=
  (demanded s.params iin).foldl demand s

/-- The SOE handler is given the values of a response, if there are any. -/
def noteMeasurements (s : MContext) (id : Nat) (values : Measurements) : MContext :=
  if values.isEmpty then s else s.note (.measurements id values)

/-- `IMasterTask::OnResponse`. -/
def taskOnResponse (s : MContext) (a : Surroundings) (ref : TaskRef) (id : Nat)
    (header : APDUResponseHeader) (objects : List UInt8) : MContext × ResponseResult :=
  let task := s.tasks ref
  let (body, result, values) := task.body.processResponse a header objects
  let s := (s.setTask ref { task with body := body }).noteMeasurements id values
  match result.completion with
  | some completion => (s.endTask a ref completion, result)
  | none => (s, result)

/-- The outstation may ask for a confirm of what it sent. -/
def confirmIfAsked (s : MContext) (id : Nat) (header : APDUResponseHeader) (unsolicited : Bool) :
    MContext :=
  if header.control.CON then s.queueConfirm id (.confirm header.control.SEQ unsolicited) else s

/-- `OnResponse_WaitForResponse`. -/
def onResponseWaitForResponse (s : MContext) (a : Surroundings) (id : Nat)
    (header : APDUResponseHeader) (objects : List UInt8) : MContext :=
  match s.pActiveTask with
  | none => s
  | some ref =>
    if header.control.SEQ ≠ s.solSeq then s
    else
      let s := { s with responseTimer := none, solSeq := s.solSeq + 1 }
      let (s, result) := s.taskOnResponse a ref id header objects
      let s := s.confirmIfAsked id header false
      match result with
      | .okContinue => s.startResponseTimer a
      | .okRepeat => s.startTaskReady a
      | _ => { s.completeActiveTask with tstate := .idle }

/-- `OnResponseEvent`. -/
def onResponseEvent (s : MContext) (a : Surroundings) (id : Nat) (header : APDUResponseHeader)
    (objects : List UInt8) : MContext :=
  match s.tstate with
  | .waitForResponse => s.onResponseWaitForResponse a id header objects
  | _ => s

/-- A response goes to the task that waits for one. -/
def processResponse (s : MContext) (a : Surroundings) (id : Nat) (header : APDUResponseHeader)
    (objects : List UInt8) : MContext :=
  (s.onResponseEvent a id header objects).processIIN header.IIN

/-- The part of `ProcessUnsolicitedResponse` before the indications. -/
def takeUnsolicited (s : MContext) (id : Nat) (header : APDUResponseHeader)
    (objects : List UInt8) : MContext :=
  let (result, values) := MeasurementHandler.processMeasurements objects
  let s := s.noteMeasurements id values
  if result = .ok then s.confirmIfAsked id header true else s

/-- A response that nobody asked for goes to the application; others are ignored. -/
def processUnsolicitedResponse (s : MContext) (id : Nat) (header : APDUResponseHeader)
    (objects : List UInt8) : MContext :=
  if header.control.UNS then (s.takeUnsolicited id header objects).processIIN header.IIN else s

/-- What becomes of a fragment is up to its function. -/
def processAPDU (s : MContext) (a : Surroundings) (id : Nat) (header : APDUResponseHeader)
    (objects : List UInt8) : MContext :=
  match header.function with
  | .unsolicitedResponse => s.processUnsolicitedResponse id header objects
  | .response => s.processResponse a id header objects
  | _ => s

/-- A response gets the next number. -/
def noteReceived (s : MContext) (header : APDUResponseHeader) (objects : List UInt8) : MContext :=
  { s with received := s.received + 1 }.note (.received s.received header objects)

/-- A fragment is parsed and processed, and then the master looks for a task. -/
def onReceive (s : MContext) (a : Surroundings) (apdu : List UInt8) : MContext :=
  if s.isOnline then
    match APDUHeaderParser.parseResponse apdu with
    | none => s
    | some header =>
      (s.noteReceived header (apdu.drop 4)).processAPDU a s.received header (apdu.drop 4)
  else s

/-! ## The other events -/

/-- `MasterTasks::Initialize`. -/
def sessionTasks (s : MContext) : List TaskRef :=
  [.enableUnsol, .clearRestart, .assignClass, .startupIntegrity, .disableUnsol, .timeSync,
    .eventScan] ++ (List.range s.boundTasks).map .bound

/-- The tasks of a session are scheduled, and the master looks for one later. -/
def onLowerLayerUp (s : MContext) : MContext :=
  if s.isOnline then s
  else
    (s.sessionTasks.foldl schedule ({ s with isOnline := true }.note .up)).postCheckForTask

/-- The active task ends; the tasks with the scheduler are dropped.  The queue of confirms is left
as it is. -/
def onLowerLayerDown (s : MContext) (a : Surroundings) : MContext :=
  if s.isOnline then
    let s := { s with scheduler := [] }
    let s :=
      match s.pActiveTask with
      | none => s
      | some ref => { s.endTask a ref .failureNoComms with pActiveTask := none }
    { s with
      tstate := .idle
      responseTimer := none
      taskStartTimeoutTimer := none
      scheduleTimer := none
      solSeq := 0
      isOnline := false
      isSending := false }.note .down
  else s

/-- A confirm may be sent, or a task started. -/
def onSendResult (s : MContext) (a : Surroundings) : MContext :=
  if s.isOnline && s.isSending then
    ({ s with isSending := false }.checkConfirmTransmit).checkForTask a
  else s

/-- `OnResponseTimeout_WaitForResponse`. -/
def onResponseTimeoutWaitForResponse (s : MContext) (a : Surroundings) : MContext :=
  match s.pActiveTask with
  | none => s
  | some ref =>
    let s := s.endTask a ref .failureResponseTimeout
    { { s with solSeq := s.solSeq + 1 }.completeActiveTask with tstate := .idle }

/-- The task that waits for a response has waited for too long. -/
def onResponseTimeout (s : MContext) (a : Surroundings) : MContext :=
  if s.isOnline then
    match s.tstate with
    | .waitForResponse => s.onResponseTimeoutWaitForResponse a
    | _ => s
  else s

/-- The user's requests: `DirectOperate`, `SelectAndOperate`, `Scan`, `Restart`, and `Write` and
`PerformFunction`. -/
inductive UserRequest where
  | directOperate (commands : CommandSet)
  | selectAndOperate (commands : CommandSet)
  | scan
  | restart (func : FunctionCode)
  | performFunction (func : FunctionCode)

/-- The task of a request. -/
def UserRequest.body : UserRequest → TaskBody
  | directOperate commands => .command [.directOperate] commands
  | selectAndOperate commands => .command [.select, .operate] commands
  | scan => .userPoll false MonotonicTimestamp.max 0
  | restart func => .restartOperation func (APDUHandler.initial MonotonicTimestamp.min)
  | performFunction func => .emptyResponse func

/-- Make a task for the user's request. -/
def addAdhoc (s : MContext) (a : Surroundings) (request : UserRequest) : MContext :=
  let ref := TaskRef.adhoc s.adhocTasks
  let task := (IMasterTask.ofBody request.body).configureStartExpiration
    (MonotonicTimestamp.add a.now s.params.taskStartTimeout)
  ({ s with adhocTasks := s.adhocTasks + 1 }.setTask ref task).note (.scheduled ref)

/-- A task that the user asks for is scheduled, or fails at once. -/
def scheduleAdhocTask (s : MContext) (a : Surroundings) (request : UserRequest) : MContext :=
  let ref := TaskRef.adhoc s.adhocTasks
  let s := s.addAdhoc a request
  if s.isOnline then (s.schedule ref).checkForTask a
  else s.endTask a ref .failureNoComms

/-- `AddScan`. -/
def addScan (s : MContext) (period : Int) : MContext :=
  let ref := TaskRef.bound s.boundTasks
  let s := { s with boundTasks := s.boundTasks + 1 }.setTask ref
    (.ofBody (.userPoll true period 0))
  if s.isOnline then (s.schedule ref).postCheckForTask else s

/-- `MasterScan::Demand`, of a scan that was added. -/
def demandScan (s : MContext) (scan : Nat) : MContext :=
  if scan < s.boundTasks then
    { s with posted := s.posted ++ [Posted.demand scan] }.postCheckForTask
  else s

/-- The executor runs the first of the posted actions. -/
def runPosted (s : MContext) (a : Surroundings) : MContext :=
  match s.posted with
  | [] => s
  | .checkForTask :: rest => { s with posted := rest }.checkForTask a
  | .demand scan :: rest => { s with posted := rest }.demand (.bound scan)

/-- A timer that is due is stopped before its action runs. -/
def fired (timer : Option Int) (a : Surroundings) : Bool :=
  match timer with
  | some time => time ≤ a.now
  | none => false

/-- What can happen to a master. -/
inductive Event where
  | lowerLayerUp
  | lowerLayerDown
  | receive (apdu : List UInt8)
  | sendResult
  | responseTimeout
  | scheduleTimeout
  | taskStartTimeout
  | runPosted
  /-- `OnPendingTask`: the lock has passed to the master. -/
  | pendingTask
  | scheduleAdhocTask (request : UserRequest)
  | addScan (period : Int)
  | demandScan (scan : Nat)

/-- An event takes place. -/
def step (s : MContext) (e : Event × Surroundings) : MContext :=
  match e.1 with
  | .lowerLayerUp => s.onLowerLayerUp
  | .lowerLayerDown => s.onLowerLayerDown e.2
  | .receive apdu => s.onReceive e.2 apdu
  | .sendResult => s.onSendResult e.2
  | .responseTimeout =>
    if fired s.responseTimer e.2 then { s with responseTimer := none }.onResponseTimeout e.2 else s
  | .scheduleTimeout =>
    if fired s.scheduleTimer e.2 then { s with scheduleTimer := none }.checkForTask e.2 else s
  | .taskStartTimeout =>
    if fired s.taskStartTimeoutTimer e.2 then
      { s with taskStartTimeoutTimer := none }.checkTaskStartTimeout e.2
    else s
  | .runPosted => s.runPosted e.2
  | .pendingTask => s.postCheckForTask
  | .scheduleAdhocTask request => s.scheduleAdhocTask e.2 request
  | .addScan period => s.addScan period
  | .demandScan scan => s.demandScan scan

end MContext
end Master
end Dnp3
