import Dnp3.App.APDUHandler
import Dnp3.Outstation.DatabaseBuffers
import Dnp3.Outstation.EventBuffer

/-!
# The handlers of requests

What an outstation does with the object headers of a request: a READ selects points and events, a
WRITE clears the restart indication or hands times to the application, and the commands of a SELECT
or an OPERATE go to the command handler one after the other and are echoed with their status.

The application and the command handler are user code.  `Callbacks` are their functions, over a
state `W` of the surroundings that only they know.

A handler is what `App.APDUHandler` makes of a function on one header.  It answers a header with the
indications of the source: a function or an object that is not supported, or a parameter that is
wrong.  Its white-list says which headers it is handed at all.  `CommandResponseHandler` is the
longest: it asks for each command whether there may be another one, hands it to the action, counts
it when it has, and echoes it with the status; `stop` is called in the end whenever `start` was.
-/

namespace Dnp3
namespace Outstation

open App

/-! ## User code -/

/-- A command, by its type. -/
inductive Command where
  | controlRelayOutputBlock (c : ControlRelayOutputBlock)
  | analogOutputInt16 (c : AnalogOutputInt16)
  | analogOutputInt32 (c : AnalogOutputInt32)
  | analogOutputFloat32 (c : AnalogOutputFloat32)
  | analogOutputDouble64 (c : AnalogOutputDouble64)
  deriving DecidableEq, Repr

/-- Whether the application restarts, and the unit of the time it needs. -/
inductive RestartMode where
  | unsupported
  | supportedDelayFine
  | supportedDelayCoarse
  deriving DecidableEq, Repr

/-- The indications the application controls. -/
structure ApplicationIIN where
  needTime : Bool
  localControl : Bool
  deviceTrouble : Bool
  configCorrupt : Bool
  deriving DecidableEq, Repr

/-- The indications as a field. -/
def ApplicationIIN.toIIN (i : ApplicationIIN) : IINField :=
  (((IINField.empty.setBitToValue .needTime i.needTime).setBitToValue .localControl
    i.localControl).setBitToValue .configCorrupt i.configCorrupt).setBitToValue .deviceTrouble
      i.deviceTrouble

/-- The command handler; `start` and `stop` enclose the commands of one request. -/
structure ICommandHandler (W : Type) where
  start : W → W
  stop : W → W
  select : W → Command → UInt16 → W × CommandStatus
  operate : W → Command → UInt16 → W × CommandStatus

/-- What the application is asked and told. -/
structure IOutstationApplication (W : Type) where
  supportsWriteAbsoluteTime : W → Bool
  writeAbsoluteTime : W → DNPTime → W × Bool
  supportsWriteTimeAndInterval : W → Bool
  writeTimeAndInterval : W → List (Indexed TimeAndInterval) → W × Bool
  supportsAssignClass : W → Bool
  getApplicationIIN : W → ApplicationIIN
  coldRestartSupport : W → RestartMode
  warmRestartSupport : W → RestartMode
  coldRestart : W → W × UInt16
  warmRestart : W → W × UInt16

/-- What the outstation is constructed with. -/
structure Callbacks (W : Type) extends ICommandHandler W, IOutstationApplication W

variable {W : Type}

/-! ## Reading -/

/-- The database and the events, from which a READ selects. -/
structure ReadHandler where
  database : DatabaseBuffers
  eventBuffer : EventBuffer

namespace ReadHandler

/-- Select what a header asks for, static values or events. -/
def processHeader (_ : Nat) (h : ReadHandler) : ObjectHeader → ReadHandler × IINField
  | .allObjects record =>
    match record.type with
    | .static =>
      let (database, result) := h.database.selectAll record.enumeration
      ({ h with database := database }, result)
    | .event =>
      let (eventBuffer, result) := h.eventBuffer.selectAll record.enumeration
      ({ h with eventBuffer := eventBuffer }, result)
    | .other => (h, .ofBit .funcNotSupported)
  | .range record range =>
    let (database, result) := h.database.selectRange record.enumeration range
    ({ h with database := database }, result)
  | .count record count =>
    let (eventBuffer, result) := h.eventBuffer.selectCount record.enumeration count
    ({ h with eventBuffer := eventBuffer }, result)
  | _ => APDUHandler.processUnsupportedHeader h

/-- `IsAllowed`. -/
def isAllowed : APDUParser.WhiteList := fun _ _ _ => true

end ReadHandler

/-! ## Writing -/

/-- A WRITE, with what it has written so far. -/
structure WriteHandler (W : Type) where
  world : W
  writeIIN : IINField
  wroteTime : Bool
  wroteIIN : Bool

namespace WriteHandler

/-- Nothing was written. -/
def initial (world : W) (writeIIN : IINField) : WriteHandler W :=
  { world := world, writeIIN := writeIIN, wroteTime := false, wroteIIN := false }

/-- The position of the restart indication among all of them. -/
def deviceRestartIndex : UInt16 := 7

/-- The restart indication may be cleared, once in a request. -/
def processIIN (h : WriteHandler W) (values : List (Indexed IINValue)) :
    WriteHandler W × IINField :=
  match values with
  | [pair] =>
    if h.wroteIIN then (h, .ofBit .paramError)
    else if pair.index ≠ deviceRestartIndex then (h, .ofBit .paramError)
    else if pair.value.value then (h, .ofBit .paramError)
    else ({ h with wroteIIN := true, writeIIN := h.writeIIN.clearBit .deviceRestart }, .empty)
  | _ => (h, .ofBit .paramError)

/-- One time may be set, once in a request, if the application supports it. -/
def processTime (cb : Callbacks W) (h : WriteHandler W) (values : List DNPTime) :
    WriteHandler W × IINField :=
  if h.wroteTime then (h, .ofBit .paramError)
  else
    match values with
    | [time] =>
      if cb.supportsWriteAbsoluteTime h.world then
        let (world, accepted) := cb.writeAbsoluteTime h.world time
        ({ h with wroteTime := true, world := world },
          if accepted then .empty else .ofBit .paramError)
      else (h, .ofBit .funcNotSupported)
    | _ => (h, .ofBit .paramError)

/-- The application is given the times, if it supports them. -/
def processTimeAndInterval (cb : Callbacks W) (h : WriteHandler W)
    (values : List (Indexed TimeAndInterval)) : WriteHandler W × IINField :=
  if cb.supportsWriteTimeAndInterval h.world then
    let (world, accepted) := cb.writeTimeAndInterval h.world values
    ({ h with world := world }, if accepted then .empty else .ofBit .paramError)
  else (h, .ofBit .funcNotSupported)

/-- Headers of anything else cannot be written. -/
def processHeader (cb : Callbacks W) (_ : Nat) (h : WriteHandler W) :
    ObjectHeader → WriteHandler W × IINField
  | .rangeOf _ _ (.iinValue values) => h.processIIN values
  | .countOf _ _ (.group50Var1 values) => h.processTime cb values
  | .prefixOf _ _ (.timeAndInterval values) => h.processTimeAndInterval cb values
  | _ => APDUHandler.processUnsupportedHeader h

/-- `IsAllowed`. -/
def isAllowed : APDUParser.WhiteList := fun _ _ _ => true

end WriteHandler

/-! ## Classes -/

namespace ClassBasedRequestHandler

/-- The classes that the headers name. -/
def processHeader (_ : Nat) (classField : ClassField) : ObjectHeader → ClassField × IINField
  | .allObjects record =>
    match record.enumeration with
    | .group60Var2 => (classField.set (.ofPointClass .class1), .empty)
    | .group60Var3 => (classField.set (.ofPointClass .class2), .empty)
    | .group60Var4 => (classField.set (.ofPointClass .class3), .empty)
    | _ => (classField, .ofBit .funcNotSupported)
  | _ => APDUHandler.processUnsupportedHeader classField

/-- `IsAllowed`. -/
def isAllowed : APDUParser.WhiteList := fun _ _ _ => true

end ClassBasedRequestHandler

/-! ## Commands -/

/-- What is done with each command: it is selected, operated, or answered with a fixed status. -/
inductive CommandAction where
  | select
  | operate
  | constant (status : CommandStatus)
  deriving DecidableEq, Repr

/-- How the commands of a type are echoed. -/
structure CommandType (T : Type) where
  serializer : DNP3Serializer T
  command : T → Command
  withStatus : T → CommandStatus → T

namespace CommandType

/-- A control relay output block, group 12 variation 1. -/
def controlRelayOutputBlock : CommandType ControlRelayOutputBlock where
  serializer := group12Var1
  command := .controlRelayOutputBlock
  withStatus c status := { c with status := status }

/-- An analog output with a 16-bit integer, group 41 variation 2. -/
def analogOutputInt16 : CommandType AnalogOutputInt16 where
  serializer := group41Var2
  command := .analogOutputInt16
  withStatus c status := { c with status := status }

/-- An analog output with a 32-bit integer, group 41 variation 1. -/
def analogOutputInt32 : CommandType AnalogOutputInt32 where
  serializer := group41Var1
  command := .analogOutputInt32
  withStatus c status := { c with status := status }

/-- An analog output in single precision, group 41 variation 3. -/
def analogOutputFloat32 : CommandType AnalogOutputFloat32 where
  serializer := group41Var3
  command := .analogOutputFloat32
  withStatus c status := { c with status := status }

/-- An analog output in double precision, group 41 variation 4. -/
def analogOutputDouble64 : CommandType AnalogOutputDouble64 where
  serializer := group41Var4
  command := .analogOutputDouble64
  withStatus c status := { c with status := status }

end CommandType

/-- The commands of a request.  `statuses` remembers what the action returned for each of them, and
is not in the source. -/
structure CommandResponseHandler (W : Type) where
  world : W
  isStarted : Bool
  numRequests : Nat
  numSuccess : Nat
  /-- Where the commands are echoed; none for a request without a response. -/
  writer : Option HeaderWriter
  statuses : List CommandStatus

namespace CommandResponseHandler

variable (cb : Callbacks W) (action : CommandAction) (maxCommands : UInt8)

/-- No command was processed. -/
def initial (world : W) (writer : Option HeaderWriter) : CommandResponseHandler W where
  world := world
  isStarted := false
  numRequests := 0
  numSuccess := 0
  writer := writer
  statuses := []

/-- Every command that was counted has succeeded. -/
def allCommandsSuccessful (h : CommandResponseHandler W) : Bool := h.numRequests == h.numSuccess

/-- `CheckStart` of the adapter. -/
def checkStart (h : CommandResponseHandler W) : CommandResponseHandler W :=
  if h.isStarted then h else { h with isStarted := true, world := cb.start h.world }

/-- `Action` of the adapter, or of the constant action. -/
def act (h : CommandResponseHandler W) (command : Command) (index : UInt16) :
    CommandResponseHandler W × CommandStatus :=
  match action with
  | .select =>
    let h := h.checkStart cb
    let (world, status) := cb.select h.world command index
    ({ h with world := world }, status)
  | .operate =>
    let h := h.checkStart cb
    let (world, status) := cb.operate h.world command index
    ({ h with world := world }, status)
  | .constant status => (h, status)

/-- Act on a command; one that is beyond the limit is refused and not counted. -/
def processCommand (h : CommandResponseHandler W) (command : Command) (index : UInt16) :
    CommandResponseHandler W × CommandStatus :=
  if h.numRequests < maxCommands.toNat then
    let (h, status) := act cb action { h with numRequests := h.numRequests + 1 } command index
    ({ h with statuses := h.statuses ++ [status] }, status)
  else (h, .tooManyOps)

variable {T : Type} (type : CommandType T)

/-- The loop over the commands of a header, with the iterator that echoes them. -/
def respondToItems : CommandResponseHandler W → Option (PrefixedWriteIterator T × WSlice) →
    IINField → List (Indexed T) →
    CommandResponseHandler W × Option (PrefixedWriteIterator T × WSlice) × IINField
  | h, it, ret, [] => (h, it, ret)
  | h, it, ret, pair :: pairs =>
    let (h, status) := processCommand cb action maxCommands h (type.command pair.value) pair.index
    let h := if status = .success then { h with numSuccess := h.numSuccess + 1 } else h
    let ret := if status = .notSupported then ret.setBit .paramError else ret
    let it := it.map fun p =>
      (p.1.write p.2 (type.withStatus pair.value status) pair.index.toNat).1
    respondToItems h it ret pairs

/-- Process the commands of a header, and write them back with their statuses. -/
def respondToHeader (h : CommandResponseHandler W) (index : IndexType) (qualifier : QualifierCode)
    (values : List (Indexed T)) : CommandResponseHandler W × IINField :=
  match h.writer with
  | some writer =>
    let (writer, it) := writer.iterateOverCountWithPrefix index qualifier type.serializer
    let (h, it, ret) := respondToItems cb action maxCommands type h (some (it, writer.position))
      .empty values
    ({ h with writer := it.map fun p => { writer with position := p.1.finish p.2 } }, ret)
  | none =>
    let (h, _, ret) := respondToItems cb action maxCommands type h none .empty values
    (h, ret)

/-- The answer has 8-bit indices, as the request has. -/
def processIndexPrefixOneByte (h : CommandResponseHandler W) (values : List (Indexed T)) :
    CommandResponseHandler W × IINField :=
  respondToHeader cb action maxCommands type h .uint8 .uint8CntUint8Index values

/-- The answer has 16-bit indices, as the request has. -/
def processIndexPrefixTwoByte (h : CommandResponseHandler W) (values : List (Indexed T)) :
    CommandResponseHandler W × IINField :=
  respondToHeader cb action maxCommands type h .uint16 .uint16CntUint16Index values

/-- The answer has the qualifier of the request. -/
def processAny (h : CommandResponseHandler W) (record : HeaderRecord) (values : List (Indexed T)) :
    CommandResponseHandler W × IINField :=
  if record.getQualifierCode = .uint8CntUint8Index then
    processIndexPrefixOneByte cb action maxCommands type h values
  else processIndexPrefixTwoByte cb action maxCommands type h values

/-- Headers of commands are processed by their type; others are not supported. -/
def processHeader (_ : Nat) (h : CommandResponseHandler W) :
    ObjectHeader → CommandResponseHandler W × IINField
  | .prefixOf record _ (.controlRelayOutputBlock values) =>
    processAny cb action maxCommands .controlRelayOutputBlock h record values
  | .prefixOf record _ (.analogOutputInt16 values) =>
    processAny cb action maxCommands .analogOutputInt16 h record values
  | .prefixOf record _ (.analogOutputInt32 values) =>
    processAny cb action maxCommands .analogOutputInt32 h record values
  | .prefixOf record _ (.analogOutputFloat32 values) =>
    processAny cb action maxCommands .analogOutputFloat32 h record values
  | .prefixOf record _ (.analogOutputDouble64 values) =>
    processAny cb action maxCommands .analogOutputDouble64 h record values
  | _ => APDUHandler.processUnsupportedHeader h

/-- `IsAllowed`: control relay output blocks and the four kinds of analog outputs. -/
def isAllowed : APDUParser.WhiteList := fun _ gv qc =>
  if qc = .uint8CntUint8Index ∨ qc = .uint16CntUint16Index then
    match gv with
    | .group12Var1 => true
    | .group41Var1 => true
    | .group41Var2 => true
    | .group41Var3 => true
    | .group41Var4 => true
    | _ => false
  else false

/-- The destructor of the adapter. -/
def stop (h : CommandResponseHandler W) : W := if h.isStarted then cb.stop h.world else h.world

end CommandResponseHandler
end Outstation
end Dnp3
