import Dnp3.App.APDUHandler
import Dnp3.App.HeaderWriter

/-!
# Sets of commands

A command set is a list of headers, each with commands of one type.  It is written into the SELECT
and into the OPERATE, and a response to either is held against it header by header: the items of a
header of the response belong to the commands of the header with the same number, by position.  A
header of another type, or one with more items than there are commands, is passed over.

The loops of the source are over the commands of a header and the items of a response at once; here
they are functions on lists that go through both (`visitAll`).  A command remembers what became of
it: it starts as new, a response to the SELECT may select it, a response to the OPERATE may let it
succeed, and any other status or value is kept as the reason why it did not.  Whether all points are
selected is asked between the two requests.
-/

namespace Dnp3
namespace Master

open App

/-- What became of a command point. -/
inductive CommandPointState where
  /-- No response was received for the point. -/
  | init
  /-- A response to the select matched; the operate did not complete. -/
  | selectSuccess
  | selectMismatch
  /-- The response to the select has another status than success. -/
  | selectFail
  /-- The response to the operate did not match. -/
  | operateFail
  /-- The response to the operate matched. -/
  | success
  deriving DecidableEq, Repr

/-- What a header needs to know of the type of its commands. -/
structure CommandType (T : Type) where
  serializer : DNP3Serializer T
  valuesEqual : T → T → Bool
  status : T → CommandStatus

namespace CommandType

/-- Control relay output blocks. -/
def crob : CommandType ControlRelayOutputBlock :=
  ⟨group12Var1, ControlRelayOutputBlock.valuesEqual, ControlRelayOutputBlock.status⟩

/-- `AnalogOutput<T>::ValuesEqual` compares the values. -/
def analogOutput {T : Type} (serializer : DNP3Serializer (AnalogOutput T)) (eq : T → T → Bool) :
    CommandType (AnalogOutput T) :=
  ⟨serializer, fun x y => eq x.value y.value, AnalogOutput.status⟩

/-- Analog outputs with 32-bit integers. -/
def aoInt32 : CommandType AnalogOutputInt32 := analogOutput group41Var1 (· == ·)

/-- Analog outputs with 16-bit integers. -/
def aoInt16 : CommandType AnalogOutputInt16 := analogOutput group41Var2 (· == ·)

/-- Analog outputs in single precision. -/
def aoFloat32 : CommandType AnalogOutputFloat32 := analogOutput group41Var3 Single.eq

/-- Analog outputs in double precision. -/
def aoDouble64 : CommandType AnalogOutputDouble64 := analogOutput group41Var4 Double.eq

end CommandType

/-! ## Headers of one type -/

/-- A command with what became of it. -/
structure CommandRecord (T : Type) where
  state : CommandPointState
  status : CommandStatus
  index : UInt16
  command : T
  deriving DecidableEq, Repr

namespace CommandRecord

variable {T : Type} (type : CommandType T)

/-- A command that was not sent. -/
def ofPair (pair : Indexed T) : CommandRecord T :=
  { state := .init, status := .undefined, index := pair.index, command := pair.value }

/-- An item of the response to a select. -/
def visitSelect (rec : CommandRecord T) (item : Indexed T) : CommandRecord T :=
  if item.index ≠ rec.index then rec
  else if !type.valuesEqual item.value rec.command then { rec with state := .selectMismatch }
  else if type.status item.value ≠ .success then
    { rec with state := .selectFail, status := type.status item.value }
  else if rec.state = .init then { rec with state := .selectSuccess }
  else rec

/-- An item of the response to an operate. -/
def visitOperate (rec : CommandRecord T) (item : Indexed T) : CommandRecord T :=
  if item.index ≠ rec.index then rec
  else if !type.valuesEqual item.value rec.command then { rec with state := .operateFail }
  else { rec with state := .success, status := type.status item.value }

end CommandRecord

/-- `TypedCommandHeader`: its commands in the order they were added. -/
structure TypedCommandHeader (T : Type) where
  records : List (CommandRecord T)
  deriving DecidableEq, Repr

namespace TypedCommandHeader

variable {T : Type} (type : CommandType T)

/-- Commands that were not sent. -/
def ofPairs (pairs : List (Indexed T)) : TypedCommandHeader T := ⟨pairs.map .ofPair⟩

/-- Every command of the header was selected. -/
def areAllSelected (h : TypedCommandHeader T) : Bool :=
  h.records.all fun rec => rec.state == .selectSuccess

/-- Write the commands until one does not fit. -/
def writeRecords (iter : PrefixedWriteIterator T) (position : WSlice) :
    List (CommandRecord T) → (PrefixedWriteIterator T × WSlice) × Bool
  | [] => ((iter, position), true)
  | rec :: records =>
    match iter.write position rec.command rec.index.toNat with
    | ((iter, position), true) => writeRecords iter position records
    | ((iter, position), false) => ((iter, position), false)

/-- Write the commands with their indices, as many as fit; a header without commands is refused. -/
def write (h : TypedCommandHeader T) (writer : HeaderWriter) : HeaderWriter × Bool :=
  if h.records.isEmpty then (writer, false)
  else
    let (writer, iter) :=
      writer.iterateOverCountWithPrefix .uint16 .uint16CntUint16Index type.serializer
    let ((iter, position), written) := writeRecords iter writer.position h.records
    ({ writer with position := iter.finish position }, written && iter.isValid)

/-- Hold the items of a header against the commands, by position. -/
def visitAll (visit : CommandRecord T → Indexed T → CommandRecord T) :
    List (CommandRecord T) → List (Indexed T) → List (CommandRecord T)
  | rec :: records, item :: items => visit rec item :: visitAll visit records items
  | records, _ => records

/-- Compare the answer with the commands, one by one; an answer that has more of them is ignored. -/
def apply (visit : CommandRecord T → Indexed T → CommandRecord T) (h : TypedCommandHeader T)
    (commands : List (Indexed T)) : TypedCommandHeader T :=
  if commands.length > h.records.length then h else ⟨visitAll visit h.records commands⟩

/-- The commands are selected that come back as they were sent. -/
def applySelectResponse (h : TypedCommandHeader T) (commands : List (Indexed T)) :
    TypedCommandHeader T :=
  h.apply (CommandRecord.visitSelect type) commands

/-- The commands have succeeded that come back as they were sent. -/
def applyOperateResponse (h : TypedCommandHeader T) (commands : List (Indexed T)) :
    TypedCommandHeader T :=
  h.apply (CommandRecord.visitOperate type) commands

end TypedCommandHeader

/-! ## Headers of any type -/

/-- `ICommandHeader`: a header of one of the types of commands. -/
inductive ICommandHeader where
  | crob (header : TypedCommandHeader ControlRelayOutputBlock)
  | aoInt32 (header : TypedCommandHeader AnalogOutputInt32)
  | aoInt16 (header : TypedCommandHeader AnalogOutputInt16)
  | aoFloat32 (header : TypedCommandHeader AnalogOutputFloat32)
  | aoDouble64 (header : TypedCommandHeader AnalogOutputDouble64)
  deriving DecidableEq, Repr

namespace ICommandHeader

/-- Every command of the header was selected, whatever its type. -/
def areAllSelected : ICommandHeader → Bool
  | crob header => header.areAllSelected
  | aoInt32 header => header.areAllSelected
  | aoInt16 header => header.areAllSelected
  | aoFloat32 header => header.areAllSelected
  | aoDouble64 header => header.areAllSelected

/-- The commands are written with the serializer of their type. -/
def write (writer : HeaderWriter) : ICommandHeader → HeaderWriter × Bool
  | crob header => header.write .crob writer
  | aoInt32 header => header.write .aoInt32 writer
  | aoInt16 header => header.write .aoInt16 writer
  | aoFloat32 header => header.write .aoFloat32 writer
  | aoDouble64 header => header.write .aoDouble64 writer

/-- A header overrides the function of its own type; those of the other types do nothing. -/
def applySelectResponse : ICommandHeader → Values → ICommandHeader
  | crob header, .controlRelayOutputBlock vs => crob (header.applySelectResponse .crob vs)
  | aoInt32 header, .analogOutputInt32 vs => aoInt32 (header.applySelectResponse .aoInt32 vs)
  | aoInt16 header, .analogOutputInt16 vs => aoInt16 (header.applySelectResponse .aoInt16 vs)
  | aoFloat32 header, .analogOutputFloat32 vs =>
    aoFloat32 (header.applySelectResponse .aoFloat32 vs)
  | aoDouble64 header, .analogOutputDouble64 vs =>
    aoDouble64 (header.applySelectResponse .aoDouble64 vs)
  | header, _ => header

/-- The answer has to have the type of the commands. -/
def applyOperateResponse : ICommandHeader → Values → ICommandHeader
  | crob header, .controlRelayOutputBlock vs => crob (header.applyOperateResponse .crob vs)
  | aoInt32 header, .analogOutputInt32 vs => aoInt32 (header.applyOperateResponse .aoInt32 vs)
  | aoInt16 header, .analogOutputInt16 vs => aoInt16 (header.applyOperateResponse .aoInt16 vs)
  | aoFloat32 header, .analogOutputFloat32 vs =>
    aoFloat32 (header.applyOperateResponse .aoFloat32 vs)
  | aoDouble64 header, .analogOutputDouble64 vs =>
    aoDouble64 (header.applyOperateResponse .aoDouble64 vs)
  | header, _ => header

end ICommandHeader

/-- `CommandSet`. -/
abbrev CommandSet := List ICommandHeader

/-! ## Operations on sets -/

namespace CommandSetOps

/-- Which request a response is applied to. -/
inductive Mode where
  | select
  | operate
  deriving DecidableEq, Repr

/-- What becomes of a response to an operate. -/
inductive OperateResult where
  | ok
  | failParse
  deriving DecidableEq, Repr

/-- What becomes of a response to a select. -/
inductive SelectResult where
  | ok
  | failParse
  | failSelect
  deriving DecidableEq, Repr

/-- Write the headers until one does not fit. -/
def write (writer : HeaderWriter) : CommandSet → HeaderWriter × Bool
  | [] => (writer, true)
  | header :: set =>
    match header.write writer with
    | (writer, true) => write writer set
    | (writer, false) => (writer, false)

/-- Hold a header of the response against the header with its number. -/
def processAny (mode : Mode) (commands : CommandSet) (record : HeaderRecord) (values : Values) :
    CommandSet × IINField :=
  if record.getQualifierCode ≠ .uint16CntUint16Index then (commands, .ofBit .paramError)
  else if record.headerIndex ≥ commands.length then (commands, .ofBit .paramError)
  else
    match mode with
    | .select =>
      (commands.modify record.headerIndex fun header => header.applySelectResponse values, .empty)
    | .operate =>
      (commands.modify record.headerIndex fun header => header.applyOperateResponse values, .empty)

/-- A header is applied to the commands with the same number. -/
def processHeader (mode : Mode) : APDUHandler.Process CommandSet := fun _ commands header =>
  match header with
  | .prefixOf record _ values =>
    match values with
    | .controlRelayOutputBlock _ | .analogOutputInt16 _ | .analogOutputInt32 _
    | .analogOutputFloat32 _ | .analogOutputDouble64 _ => processAny mode commands record values
    | _ => APDUHandler.processUnsupportedHeader commands
  | _ => APDUHandler.processUnsupportedHeader commands

/-- Headers of commands, with 16-bit counts and indices. -/
def isAllowed : APDUParser.WhiteList := fun _ gv qc =>
  if qc ≠ .uint16CntUint16Index then false
  else
    match gv with
    | .group12Var1 | .group41Var1 | .group41Var2 | .group41Var3 | .group41Var4 => true
    | _ => false

/-- Parse a response and hold its headers against the set. -/
def applyResponse (mode : Mode) (set : CommandSet) (headers : List UInt8) :
    ParseResult × CommandSet :=
  let (result, parsed) := APDUParser.parse headers true isAllowed
  (result, (APDUHandler.onHeaders (processHeader mode) set parsed).state)

/-- Every command has to be selected, or the set is not operated. -/
def processSelectResponse (set : CommandSet) (headers : List UInt8) : CommandSet × SelectResult :=
  let (result, set) := applyResponse .select set headers
  if result ≠ .ok then (set, .failParse)
  else (set, if set.all ICommandHeader.areAllSelected then .ok else .failSelect)

/-- The set is done with once its response can be parsed. -/
def processOperateResponse (set : CommandSet) (headers : List UInt8) :
    CommandSet × OperateResult :=
  let (result, set) := applyResponse .operate set headers
  (set, if result = .ok then .ok else .failParse)

end CommandSetOps
end Master
end Dnp3
