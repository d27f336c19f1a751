import Dnp3.App.APDUHeader
import Dnp3.Link.Crc
import Dnp3.Outstation.AssignClass
import Dnp3.Outstation.RequestHandlers
import Dnp3.Outstation.StaticRead

/-!
# The state of an outstation

`OContext` is what an outstation keeps between two events: its databases, the last request it has
processed, a request it has deferred, the selection of controls, and one state machine each for
solicited and for unsolicited responses, which share a confirm timer.

`log` is not in the source.  It remembers what has happened so far, with the records of the event
buffer that are in a fragment, so that statements about whole runs can be made.

The pieces of the state are the classes of the source with their functions: `RequestHistory`
compares a request with the last one, `DeferredRequest` keeps one in a buffer of limited size,
`ControlState` keeps number, time and digest of a selection.  The state machines are enumerations,
with one definition for each transition in `Outstation.OutstationContext`.  `Effect` has an entry
for everything that a neighbour can see: requests that are processed, commands that are operated,
fragments that are sent, confirms that come in or do not.
-/

namespace Dnp3
namespace Outstation

open App Link

/-! ## Parameters -/

/-- The parameters of a session, times in milliseconds. -/
structure OutstationParams where
  maxControlsPerRequest : UInt8
  selectTimeout : Int
  solConfirmTimeout : Int
  unsolConfirmTimeout : Int
  maxTxFragSize : Nat
  maxRxFragSize : Nat
  allowUnsolicited : Bool
  /-- The classes reported unsolicited; requests change them. -/
  unsolClassMask : ClassField
  deriving DecidableEq, Repr

/-! ## Requests -/

/-- What is kept of the last request that was processed. -/
structure RequestHistory where
  hasLast : Bool
  lastHeader : APDUHeader
  lastDigest : UInt16
  lastObjectsLength : Nat
  deriving DecidableEq, Repr

namespace RequestHistory

/-- There was no request. -/
def initial : RequestHistory where
  hasLast := false
  lastHeader := { function := .unknown, control := .request 0 }
  lastDigest := 0
  lastObjectsLength := 0

/-- The last request is forgotten. -/
def reset (h : RequestHistory) : RequestHistory := { h with hasLast := false }

/-- Remember the header of a request, and the length and checksum of its objects. -/
def recordLastProcessedRequest (_ : RequestHistory) (header : APDUHeader) (objects : List UInt8) :
    RequestHistory where
  hasLast := true
  lastHeader := header
  lastDigest := CRC.calcCrc objects
  lastObjectsLength := objects.length

/-- The objects have the length and the checksum of the last ones. -/
def equalsLastObjects (h : RequestHistory) (objects : List UInt8) : Bool :=
  h.hasLast && h.lastObjectsLength == objects.length && h.lastDigest == CRC.calcCrc objects

/-- The request is taken for the last one. -/
def fullyEqualsLastRequest (h : RequestHistory) (header : APDUHeader) (objects : List UInt8) :
    Bool :=
  h.lastHeader == header && h.equalsLastObjects objects

end RequestHistory

/-- A request that is kept for later, in a buffer of some size. -/
structure DeferredRequest where
  isSet : Bool
  header : APDUHeader
  objects : List UInt8
  maxAPDUSize : Nat
  deriving DecidableEq, Repr

namespace DeferredRequest

/-- No request is kept. -/
def initial (maxAPDUSize : Nat) : DeferredRequest where
  isSet := false
  header := { function := .unknown, control := .request 0 }
  objects := []
  maxAPDUSize := maxAPDUSize

/-- The request that was kept is forgotten. -/
def reset (d : DeferredRequest) : DeferredRequest := { d with isSet := false }

/-- `Set`: objects that do not fit into the buffer are lost. -/
def set (d : DeferredRequest) (header : APDUHeader) (objects : List UInt8) : DeferredRequest where
  isSet := true
  header := header
  objects := if d.maxAPDUSize < objects.length then [] else objects
  maxAPDUSize := d.maxAPDUSize

end DeferredRequest

/-! ## Controls -/

/-- The selection that an OPERATE is compared with. -/
structure ControlState where
  expectedSeq : AppSeqNum
  selectTime : Int
  digest : UInt16
  length : Nat
  deriving DecidableEq, Repr

namespace ControlState

/-- Nothing was selected. -/
def initial : ControlState := { expectedSeq := 0, selectTime := 0, digest := 0, length := 0 }

/-- The commands were selected by the request before, in time and as they are now. -/
def validateSelection (c : ControlState) (seq : AppSeqNum) (now timeout : Int)
    (objects : List UInt8) : CommandStatus :=
  if c.expectedSeq = seq then
    if c.selectTime ≤ now then
      if now - c.selectTime < timeout then
        if c.length = objects.length ∧ c.digest = CRC.calcCrc objects then .success else .noSelect
      else .timeout
    else .timeout
  else .noSelect

/-- Remember number, time and objects of a selection. -/
def select (_ : ControlState) (currentSeqN : AppSeqNum) (now : Int) (objects : List UInt8) :
    ControlState where
  expectedSeq := currentSeqN + 1
  selectTime := now
  digest := CRC.calcCrc objects
  length := objects.length

end ControlState

/-! ## Solicited and unsolicited responses -/

/-- The numbers of the next fragment and of the confirm that is waited for. -/
structure OutstationSeqNum where
  num : AppSeqNum
  confirmNum : AppSeqNum
  deriving DecidableEq, Repr

/-- Whether a confirm of a response is waited for. -/
inductive SolicitedState where
  | idle
  | confirmWait
  deriving DecidableEq, Repr

/-- The solicited state machine, with the last response. -/
structure OutstationSolState where
  pState : SolicitedState
  seq : OutstationSeqNum
  tx : TxBuffer
  deriving DecidableEq, Repr

namespace OutstationSolState

/-- Nothing was answered. -/
def initial (maxTxSize : Nat) : OutstationSolState :=
  { pState := .idle, seq := ⟨0, 0⟩, tx := .initial maxTxSize }

/-- No confirm is waited for. -/
def reset (s : OutstationSolState) : OutstationSolState := { s with pState := .idle }

end OutstationSolState

/-- Whether a confirm of an unsolicited response is waited for. -/
inductive UnsolicitedState where
  | idle
  | confirmWait
  deriving DecidableEq, Repr

/-- The unsolicited state machine, with the last response. -/
structure OutstationUnsolState where
  /-- The first unsolicited response, without events, has been confirmed. -/
  completedNull : Bool
  pState : UnsolicitedState
  seq : OutstationSeqNum
  tx : TxBuffer
  deriving DecidableEq, Repr

namespace OutstationUnsolState

/-- Nothing was reported. -/
def initial (maxTxSize : Nat) : OutstationUnsolState :=
  { completedNull := false, pState := .idle, seq := ⟨0, 0⟩, tx := .initial maxTxSize }

/-- No confirm is waited for. -/
def isIdle (s : OutstationUnsolState) : Bool := s.pState == .idle

/-- No confirm is waited for, and the outstation has to say again that it has started. -/
def reset (s : OutstationUnsolState) : OutstationUnsolState :=
  { s with completedNull := false, pState := .idle }

end OutstationUnsolState

/-- What the confirm timer does when it expires. -/
inductive ConfirmAction where
  | solicited
  | unsolicited
  deriving DecidableEq, Repr

/-- A running confirm timer. -/
structure ConfirmTimer where
  timeout : Int
  action : ConfirmAction
  deriving DecidableEq, Repr

/-! ## What has happened -/

/-- A fragment that was handed to the lower layer, with the records that are in it. -/
structure Fragment where
  control : AppControlField
  events : List Nat
  bytes : List UInt8
  deriving DecidableEq, Repr

/-- What the outstation did, as its neighbours see it. -/
inductive Effect where
  /-- A record was discarded for a new event. -/
  | discarded (id : Nat)
  /-- A SELECT was accepted; its commands had these results. -/
  | selected (seq : AppSeqNum) (time : Int) (objects : List UInt8) (statuses : List CommandStatus)
  /-- The commands of an OPERATE go to the command handler. -/
  | operated (seq : AppSeqNum) (time : Int) (objects : List UInt8)
  /-- A class assignment is posted to the application. -/
  | classAssigned (assignment : ClassAssignment)
  /-- A request was executed and is answered by the fragment. -/
  | responded (header : APDUHeader) (objects : List UInt8) (fragment : Fragment)
  /-- The response to a READ goes on with the fragment. -/
  | continued (fragment : Fragment)
  /-- A repeated request is answered by the last response. -/
  | repeated (header : APDUHeader) (objects bytes : List UInt8)
  | unsolicited (fragment : Fragment)
  /-- A confirm came in. -/
  | confirmReceived (control : AppControlField)
  /-- A confirm was taken for the one that is awaited, and the records were cleared. -/
  | confirmed (control : AppControlField) (cleared : List Nat)
  /-- The confirm of a solicited response is no longer awaited. -/
  | abandoned
  | layerDown
  deriving DecidableEq, Repr

/-! ## The state -/

/-- An outstation, with what surrounds it and what it did so far. -/
structure OContext (W : Type) where
  /-- The state of the user code. -/
  world : W
  /-- The time of the executor. -/
  now : Int
  eventBuffer : EventBuffer
  database : DatabaseBuffers
  /-- `fragmentCount` of the response context. -/
  fragmentCount : UInt16
  params : OutstationParams
  isOnline : Bool
  isTransmitting : Bool
  staticIIN : IINField
  confirmTimer : Option ConfirmTimer
  history : RequestHistory
  deferred : DeferredRequest
  control : ControlState
  sol : OutstationSolState
  unsol : OutstationUnsolState
  log : List Effect

namespace OContext

variable {W : Type}

/-- An outstation that is offline and has received nothing. -/
def initial (world : W) (now : Int) (events : EventBufferConfig) (database : DatabaseBuffers)
    (params : OutstationParams) : OContext W where
  world := world
  now := now
  eventBuffer := .initial events
  database := database
  fragmentCount := 0
  params := params
  isOnline := false
  isTransmitting := false
  staticIIN := .ofBit .deviceRestart
  confirmTimer := none
  history := .initial
  deferred := .initial params.maxRxFragSize
  control := .initial
  sol := .initial params.maxTxFragSize
  unsol := .initial params.maxTxFragSize
  log := []

/-- Remember what has happened. -/
def note (s : OContext W) (e : Effect) : OContext W := { s with log := s.log ++ [e] }

end OContext
end Outstation
end Dnp3
