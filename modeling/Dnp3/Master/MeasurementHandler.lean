import Dnp3.App.APDUHandler
import Dnp3.App.Decode
import Dnp3.App.ParsedHeaders

/-!
# Measurements of a response

The master's handler passes the objects of a response on to the SOE handler, header by header.  A
common time of occurrence is kept until the next one; the objects with relative times get it added.

`processHeader` is the handler that the parser is given.  An object with a relative time has the
last common time of occurrence added, and is synchronised or not as that one was; without one its
header is an error.  All others are passed on as they are.

`Says` is the rule for the proofs: headers say some objects when the handler has passed on just
these after them, whatever it had passed on before.  Headers that follow each other say what they
say one after the other (`Says.append`), so what a response says is known from the parts it was
written in.
-/

namespace Dnp3
namespace Master

open App

/-- Whether the times of a header are valid. -/
inductive TimestampMode where
  | invalid
  | synchronized
  | unsynchronized
  deriving DecidableEq, Repr

/-- What the SOE handler is told about a header. -/
structure HeaderInfo where
  gv : GroupVariation
  qualifier : QualifierCode
  tsmode : TimestampMode
  headerIndex : Nat
  deriving DecidableEq, Repr

/-- What a master reads a response with. -/
structure MeasurementHandler where
  txInitiated : Bool
  ctoMode : TimestampMode
  commonTimeOccurence : DNPTime
  /-- The calls of `Process` of the SOE handler. -/
  processed : List (HeaderInfo × Values)

namespace MeasurementHandler

/-- A handler that has read nothing. -/
def initial : MeasurementHandler where
  txInitiated := false
  ctoMode := .invalid
  commonTimeOccurence := 0
  processed := []

/-- Objects with a time are synchronized by themselves. -/
def modeFromType (gv : GroupVariation) : TimestampMode :=
  if typeHasTimestamp gv then .synchronized else .invalid

/-- Pass the values on.  The security statistics have their common form already, so that
`LoadValuesWithTransformTo` is this as well. -/
def loadValues (h : MeasurementHandler) (record : HeaderRecord) (tsmode : TimestampMode)
    (values : Values) : MeasurementHandler × IINField :=
  ({ h with
      txInitiated := true
      processed := h.processed ++
        [(⟨record.enumeration, record.getQualifierCode, tsmode, record.headerIndex⟩, values)] },
    .empty)

/-- `DNPTime(input.value.time + cto)` for every value. -/
def addTime (cto : DNPTime) : Values → Values
  | .binary vs => .binary (vs.map fun v => { v with
      value := { v.value with time := v.value.time + cto } })
  | .doubleBitBinary vs => .doubleBitBinary (vs.map fun v => { v with
      value := { v.value with time := v.value.time + cto } })
  | values => values

/-- Relative times need a common time in front of them. -/
def processWithCTO (h : MeasurementHandler) (record : HeaderRecord) (values : Values) :
    MeasurementHandler × IINField :=
  if h.ctoMode = .invalid then (h, .ofBit .paramError)
  else h.loadValues record h.ctoMode (addTime h.commonTimeOccurence values)

/-- A common time of occurrence, when it is the only value. -/
def recordCTO (h : MeasurementHandler) (mode : TimestampMode) : List DNPTime → MeasurementHandler
  | [cto] => { h with ctoMode := mode, commonTimeOccurence := cto }
  | _ => h

/-- The values under a count. -/
def processCount (h : MeasurementHandler) : Values → MeasurementHandler × IINField
  | .group51Var1 values => (h.recordCTO .synchronized values, .empty)
  | .group51Var2 values => (h.recordCTO .unsynchronized values, .empty)
  | _ => APDUHandler.processUnsupportedHeader h

/-- The values under a range. -/
def processRange (h : MeasurementHandler) (record : HeaderRecord) (values : Values) :
    MeasurementHandler × IINField :=
  match values with
  | .binary _ | .doubleBitBinary _ | .binaryOutputStatus _ | .counter _ | .frozenCounter _
  | .analog _ | .analogOutputStatus _ | .octetString _ | .timeAndInterval _ | .group121Var1 _ =>
    h.loadValues record (modeFromType record.enumeration) values
  | _ => APDUHandler.processUnsupportedHeader h

/-- The values with an index each. -/
def processPrefixed (h : MeasurementHandler) (record : HeaderRecord) (values : Values) :
    MeasurementHandler × IINField :=
  match values with
  | .binary _ =>
    if record.enumeration = .group2Var3 then h.processWithCTO record values
    else h.loadValues record (modeFromType record.enumeration) values
  | .doubleBitBinary _ =>
    if record.enumeration = .group4Var3 then h.processWithCTO record values
    else h.loadValues record (modeFromType record.enumeration) values
  | .binaryOutputStatus _ | .counter _ | .frozenCounter _ | .analog _ | .analogOutputStatus _
  | .octetString _ | .binaryCommandEvent _ | .analogCommandEvent _ | .group122Var1 _
  | .group122Var2 _ => h.loadValues record (modeFromType record.enumeration) values
  | _ => APDUHandler.processUnsupportedHeader h

/-- The values of a header go to the application, with the times that belong to them. -/
def processHeader (_ : Nat) (h : MeasurementHandler) :
    ObjectHeader → MeasurementHandler × IINField
  | .countOf _ _ values => h.processCount values
  | .rangeOf record _ values => h.processRange record values
  | .prefixOf record _ values => h.processPrefixed record values
  | .allObjects _ | .count _ _ | .range _ _ | .freeFormat _ _ =>
    APDUHandler.processUnsupportedHeader h

/-- `IsAllowed`. -/
def isAllowed : APDUParser.WhiteList := fun _ _ _ => true

/-- `ProcessMeasurements`: the result of the parser, and the calls of the SOE handler. -/
def processMeasurements (objects : List UInt8) : ParseResult × List (HeaderInfo × Values) :=
  let (result, headers) := APDUParser.parse objects true isAllowed
  (result, (APDUHandler.onHeaders processHeader initial headers).state.processed)

/-- The objects that were passed on, one at a time. -/
def objects (processed : List (HeaderInfo × Values)) : List DecodedObject :=
  processed.flatMap fun p => p.2.singles.map fun v => ⟨p.1.gv, v⟩

/-! ## Headers by their numbers -/

/-- The handler after some headers of a fragment, the first of which has this number. -/
def afterHeaders (h : MeasurementHandler) : Nat → List (Nat → ObjectHeader) → MeasurementHandler
  | _, [] => h
  | count, header :: headers =>
    (processHeader count h (header count)).1.afterHeaders (count + 1) headers

theorem afterHeaders_append (h : MeasurementHandler) (count : Nat)
    (headers headers' : List (Nat → ObjectHeader)) :
    h.afterHeaders count (headers ++ headers') =
      (h.afterHeaders count headers).afterHeaders (count + headers.length) headers' := by
  induction headers generalizing h count with
  | nil => rfl
  | cons header headers ih =>
    rw [List.cons_append, afterHeaders, afterHeaders, ih, List.length_cons]
    congr 1
    omega

theorem foldl_numbered (h : APDUHandler MeasurementHandler) (headers : List (Nat → ObjectHeader))
    (count : Nat) :
    ((numbered count headers).foldl (APDUHandler.onHeader processHeader) h).state =
      h.state.afterHeaders count headers := by
  induction headers generalizing h count with
  | nil => rfl
  | cons header headers ih =>
    rw [numbered, List.foldl_cons, ih]
    rfl

/-- What a fragment says: these objects are passed on for its headers, whatever was before. -/
def Says (headers : List (Nat → ObjectHeader)) (said : List DecodedObject) : Prop :=
  ∀ (h : MeasurementHandler) (count : Nat),
    objects (h.afterHeaders count headers).processed = objects h.processed ++ said

theorem Says.nil : Says [] [] := fun h _ => (List.append_nil (objects h.processed)).symm

theorem Says.append {headers headers' : List (Nat → ObjectHeader)} {said said' : List DecodedObject}
    (h : Says headers said) (h' : Says headers' said') :
    Says (headers ++ headers') (said ++ said') := by
  intro handler count
  rw [afterHeaders_append, h', h, List.append_assoc]

theorem objects_loadValues (h : MeasurementHandler) (record : HeaderRecord)
    (tsmode : TimestampMode) (values : Values) :
    objects (h.loadValues record tsmode values).1.processed =
      objects h.processed ++ values.singles.map fun v => ⟨record.enumeration, v⟩ := by
  show (h.processed ++ [_]).flatMap _ = _
  rw [List.flatMap_append, List.flatMap_singleton]
  rfl

/-- The measurements of bytes whose headers are known. -/
theorem processMeasurements_of_says {bytes : List UInt8} {headers : List (Nat → ObjectHeader)}
    {said : List DecodedObject} (hparses : ParsesHeaders bytes headers)
    (hsaid : Says headers said) :
    (processMeasurements bytes).1 = .ok ∧ objects (processMeasurements bytes).2 = said := by
  have hparse : APDUParser.parse bytes true isAllowed = (.ok, numbered 0 headers) :=
    hparses.parse fun _ _ _ => rfl
  rw [processMeasurements, hparse]
  refine ⟨rfl, ?_⟩
  show objects ((numbered 0 headers).foldl (APDUHandler.onHeader processHeader)
    (APDUHandler.initial initial)).state.processed = said
  rw [foldl_numbered]
  exact hsaid initial 0

end MeasurementHandler
end Master
end Dnp3
