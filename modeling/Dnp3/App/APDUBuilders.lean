import Dnp3.App.APDUHeader
import Dnp3.Outstation.EventCount

/-!
# Building requests

A request is built in a buffer: its objects are written behind two bytes for the control field and
the function code, which are set at any time.  The requests that a master makes by itself read
classes of objects, enable or disable unsolicited responses for classes, clear the restart
indication or measure the delay of the channel.

`APDURequest` keeps its buffer with the position behind the last object.  A writer is taken out of
it and put back with `withWriter`; what does not fit is left out without an error, as in the source,
so that a request in a short buffer asks for fewer classes.  The function codes, the variations and
the order in which the classes are asked for are those of the source; what the requests consist of
byte by byte is proved with the fragments of a master in `Master.TaskRequests`.
-/

namespace Dnp3
namespace App

open Outstation

/-- A request in a buffer of at least two bytes: the objects end at the position. -/
structure APDURequest where
  slice : WSlice
  deriving DecidableEq, Repr

namespace APDURequest

/-- Start behind the header. -/
def create (buffer : List UInt8) : APDURequest := ⟨(WSlice.ofMemory buffer).advance 2⟩

/-- Overwrite the control octet. -/
def setControl (r : APDURequest) (control : AppControlField) : APDURequest :=
  ⟨r.slice.patch 0 [control.toByte]⟩

/-- Overwrite the function code. -/
def setFunction (r : APDURequest) (code : FunctionCode) : APDURequest :=
  ⟨r.slice.patch 1 [code.toType]⟩

/-- A writer of what comes behind the header. -/
def getWriter (r : APDURequest) : HeaderWriter := .ofSlice r.slice

/-- The request after its writer has been used. -/
def withWriter (_ : APDURequest) (writer : HeaderWriter) : APDURequest := ⟨writer.position⟩

/-- What has been written. -/
def toRSlice (r : APDURequest) : List UInt8 := r.slice.written

end APDURequest

namespace build

/-- Write headers for all objects of variations of group 60, as long as there is room. -/
def writeAllObjects (writer : HeaderWriter) : List UInt8 → HeaderWriter × Bool
  | [] => (writer, true)
  | variation :: variations =>
    match writer.writeHeader ⟨60, variation⟩ .allObjects with
    | (writer, true) => writeAllObjects writer variations
    | (writer, false) => (writer, false)

/-- The event classes come before the static class. -/
def writeClassHeaders (writer : HeaderWriter) (classes : ClassField) : HeaderWriter × Bool :=
  writeAllObjects writer <|
    (if classes.hasClass1 then [2] else []) ++ (if classes.hasClass2 then [3] else []) ++
      (if classes.hasClass3 then [4] else []) ++ (if classes.hasClass0 then [1] else [])

/-- Headers that do not fit are left out. -/
def classRequest (request : APDURequest) (fc : FunctionCode) (classes : ClassField)
    (seq : AppSeqNum) : APDURequest :=
  let request := (request.setControl (.request seq)).setFunction fc
  request.withWriter (writeClassHeaders request.getWriter classes).1

/-- `build::ReadIntegrity`: a READ with a header for each class. -/
def readIntegrity (request : APDURequest) (classes : ClassField) (seq : AppSeqNum) : APDURequest :=
  classRequest request .read classes seq

/-- `build::DisableUnsolicited`: for all classes of events, whatever they were. -/
def disableUnsolicited (request : APDURequest) (seq : AppSeqNum) : APDURequest :=
  classRequest request .disableUnsolicited .allEventClasses seq

/-- `build::EnableUnsolicited`: for the classes that are given. -/
def enableUnsolicited (request : APDURequest) (classes : ClassField) (seq : AppSeqNum) :
    APDURequest :=
  classRequest request .enableUnsolicited classes seq

/-- `IINBit::DEVICE_RESTART` as a number. -/
def deviceRestartIndex : Nat := 7

/-- Write a zero to the restart indication. -/
def clearRestartIIN (request : APDURequest) (seq : AppSeqNum) : APDURequest :=
  let request := (request.setFunction .write).setControl (.request seq)
  let (writer, iter) := request.getWriter.iterateOverSingleBitfield .uint8 ⟨80, 1⟩ .uint8StartStop
    deviceRestartIndex
  let ((iter, position), _) := iter.write writer.position false
  request.withWriter { writer with position := iter.finish position }

/-- `build::MeasureDelay`: a request without objects. -/
def measureDelay (request : APDURequest) (seq : AppSeqNum) : APDURequest :=
  (request.setFunction .delayMeasure).setControl (.request seq)

-- a read of the classes 1 and 0, and the request that clears the restart indication
example : (readIntegrity (.create (List.replicate 8 0)) ⟨0x3⟩ 5).toRSlice =
    [0xC5, 1, 60, 2, 6, 60, 1, 6] := by decide +kernel

example : (clearRestartIIN (.create (List.replicate 9 0)) 0).toRSlice =
    [0xC0, 2, 80, 1, 0, 7, 7, 0] := by decide +kernel

end build
end App
end Dnp3
