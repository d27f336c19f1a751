import Dnp3.App.ObjectLayout
import Dnp3.Library.BoundedReads

/-!
# The parser and its handler

The parser again, with the handler it may be given.  Every function of a pass gets a handler or
none, and calls it in the middle of the parsing; what it calls it with is a collection that has
read nothing yet and reads the objects when the handler iterates it.  A collection is given all the
bytes that are left, and finds the end of its objects by counting.

Sizes are 32-bit numbers here, and a read behind the end of the bytes fails.

`Outcome` has the three things that can be seen of such a function: what it returns, the bytes it
leaves, and the calls it has made, in order.  The questions to the white-list are among these calls.
That the calls are those which the parser without a handler gives back as a list of headers is
proved in `App.ParserPasses`; here are the functions of the source alone, under their names.
-/

namespace Dnp3
namespace App

open Library

/-- `Range::Count`. -/
def Range.countUInt32 (r : Range) : UInt32 :=
  if r.isValid then r.stop.toUInt32 - r.start.toUInt32 + 1 else 0

/-- `Descriptor::Size`, as every object states it. -/
def descriptorSize : GroupVariation → UInt32
  | .group1Var2 => 1
  | .group2Var1 => 1
  | .group2Var2 => 7
  | .group2Var3 => 3
  | .group3Var2 => 1
  | .group4Var1 => 1
  | .group4Var2 => 7
  | .group4Var3 => 3
  | .group10Var2 => 1
  | .group11Var1 => 1
  | .group11Var2 => 7
  | .group12Var1 => 11
  | .group13Var1 => 1
  | .group13Var2 => 7
  | .group20Var1 => 5
  | .group20Var2 => 3
  | .group20Var5 => 4
  | .group20Var6 => 2
  | .group21Var1 => 5
  | .group21Var2 => 3
  | .group21Var5 => 11
  | .group21Var6 => 9
  | .group21Var9 => 4
  | .group21Var10 => 2
  | .group22Var1 => 5
  | .group22Var2 => 3
  | .group22Var5 => 11
  | .group22Var6 => 9
  | .group23Var1 => 5
  | .group23Var2 => 3
  | .group23Var5 => 11
  | .group23Var6 => 9
  | .group30Var1 => 5
  | .group30Var2 => 3
  | .group30Var3 => 4
  | .group30Var4 => 2
  | .group30Var5 => 5
  | .group30Var6 => 9
  | .group32Var1 => 5
  | .group32Var2 => 3
  | .group32Var3 => 11
  | .group32Var4 => 9
  | .group32Var5 => 5
  | .group32Var6 => 9
  | .group32Var7 => 11
  | .group32Var8 => 15
  | .group40Var1 => 5
  | .group40Var2 => 3
  | .group40Var3 => 5
  | .group40Var4 => 9
  | .group41Var1 => 5
  | .group41Var2 => 3
  | .group41Var3 => 5
  | .group41Var4 => 9
  | .group42Var1 => 5
  | .group42Var2 => 3
  | .group42Var3 => 11
  | .group42Var4 => 9
  | .group42Var5 => 5
  | .group42Var6 => 9
  | .group42Var7 => 11
  | .group42Var8 => 15
  | .group43Var1 => 5
  | .group43Var2 => 3
  | .group43Var3 => 11
  | .group43Var4 => 9
  | .group43Var5 => 5
  | .group43Var6 => 9
  | .group43Var7 => 11
  | .group43Var8 => 15
  | .group50Var1 => 6
  | .group50Var4 => 11
  | .group51Var1 => 6
  | .group51Var2 => 6
  | .group52Var1 => 2
  | .group52Var2 => 2
  | .group120Var4 => 2
  | .group121Var1 => 7
  | .group122Var1 => 7
  | .group122Var2 => 13
  | _ => 0

namespace Handled

/-! ## Collections -/

/-- The bytes a collection reads from, the number of its elements, and how the element at a position
is read. -/
structure BufferedCollection (T : Type) where
  buffer : List UInt8
  COUNT : UInt32
  readFunc : Nat → Reader T

/-- Visit the elements; `none` when one of them needs a byte that is not there. -/
def BufferedCollection.foreach {T : Type} (c : BufferedCollection T) : Option (List T) :=
  (Reader.iterate c.readFunc 0 c.COUNT.toNat c.buffer).map (·.1)

/-- `GetBit` on the bytes that are left, which asserts its position. -/
def readBit (position : Nat) : Reader Bool := fun b =>
  if position / 8 < b.length then some (getBit b position, b) else none

/-- Read the two bits of an index; the buffer is not consumed. -/
def readDoubleBit (index : Nat) : Reader DoubleBit := fun b =>
  if index / 4 < b.length then some (getDoubleBit b index, b) else none

/-- Read a number of the width of the parser. -/
def readNum (n : NumParser) : Reader UInt16 := fun b =>
  if n.SIZE ≤ b.length then some (n.readNum b) else none

/-- The bytes that so many bits are packed in. -/
def numBytesInBits (numBits : UInt32) : UInt32 :=
  if numBits % 8 = 0 then numBits / 8 else numBits / 8 + 1

/-- The bytes that so many pairs of bits are packed in. -/
def numBytesInDoubleBits (numBits : UInt32) : UInt32 :=
  if numBits % 4 = 0 then numBits / 4 else numBits / 4 + 1

/-! ## Calls -/

/-- `OnHeader`, with the collection where the header has one. -/
inductive Callback where
  | allObjects (record : HeaderRecord)
  | count (record : HeaderRecord) (count : UInt16)
  | range (record : HeaderRecord) (range : Range)
  | countOf {T : Type} (record : HeaderRecord) (count : UInt16) (wrap : List T → Values)
      (collection : BufferedCollection T)
  | rangeOf {T : Type} (record : HeaderRecord) (range : Range)
      (wrap : List (Indexed T) → Values) (collection : BufferedCollection (Indexed T))
  | prefixOf {T : Type} (record : HeaderRecord) (count : UInt16)
      (wrap : List (Indexed T) → Values) (collection : BufferedCollection (Indexed T))
  | freeFormat (record : HeaderRecord) (count : UInt8) (object : List UInt8)

namespace Callback

/-- The header that the callback is about. -/
def record : Callback → HeaderRecord
  | .allObjects record => record
  | .count record _ => record
  | .range record _ => record
  | .countOf record _ _ _ => record
  | .rangeOf record _ _ _ => record
  | .prefixOf record _ _ _ => record
  | .freeFormat record _ _ => record

/-- The header with the values its collection yields. -/
def header : Callback → ObjectHeader
  | .allObjects record => .allObjects record
  | .count record n => .count record n
  | .range record r => .range record r
  | .countOf record n wrap collection => .countOf record n (wrap (collection.foreach.getD []))
  | .rangeOf record r wrap collection => .rangeOf record r (wrap (collection.foreach.getD []))
  | .prefixOf record n wrap collection => .prefixOf record n (wrap (collection.foreach.getD []))
  | .freeFormat record _ object => .freeFormat record object

end Callback

/-- A call on the handler: a question to its white-list, or a header. -/
inductive HandlerCall where
  | isAllowed (headerCount : Nat) (gv : GroupVariation) (qc : QualifierCode)
  | onHeader (callback : Callback)

namespace HandlerCall

/-- What the handler is told, if the call is not the question whether a header is allowed. -/
def callback? : HandlerCall → Option Callback
  | .isAllowed _ _ _ => none
  | .onHeader callback => some callback

end HandlerCall

/-- What a function of the parser returns, the bytes it leaves, and the calls it makes. -/
structure Outcome where
  result : ParseResult
  buffer : List UInt8
  calls : List HandlerCall

namespace Outcome

/-- Parsing ends here; the handler was told nothing. -/
def error (result : ParseResult) (buffer : List UInt8) : Outcome where
  result := result
  buffer := buffer
  calls := []

/-- Success; the handler is called when there is one. -/
def ok (pHandler : Bool) (callback : Callback) (buffer : List UInt8) : Outcome where
  result := .ok
  buffer := buffer
  calls := if pHandler then [.onHeader callback] else []

/-- The outcome after some calls. -/
def after (calls : List HandlerCall) (o : Outcome) : Outcome :=
  { o with calls := calls ++ o.calls }

/-- The headers the handler is called with. -/
def callbacks (o : Outcome) : List Callback := o.calls.filterMap HandlerCall.callback?

end Outcome

/-! ## Parsing one header -/

/-- `RangeParser`, `CountParser` and `CountIndexParser`: the bytes the objects need, and the call
that hands them over. -/
structure ObjectParser where
  requiredSize : UInt32
  handler : List UInt8 → Callback

/-- The `Process` of the three parsers. -/
def ObjectParser.process (p : ObjectParser) (buffer : List UInt8) (pHandler : Bool) : Outcome :=
  if buffer.length < p.requiredSize.toNat then .error .notEnoughDataForObjects buffer
  else .ok pHandler (p.handler buffer) (buffer.drop p.requiredSize.toNat)

namespace RangeParser

open App.RangeParser (indexAt)

variable {T : Type}

/-- `InvokeRangeOf` and `InvokeRangeOfType`. -/
def invokeRangeOf (codec : Codec T) (wrap : List (Indexed T) → Values) (record : HeaderRecord)
    (range : Range) (buffer : List UInt8) : Callback :=
  .rangeOf record range wrap
    { buffer := buffer
      COUNT := range.countUInt32
      readFunc := fun pos => codec.reader.mapValue fun target => ⟨target, indexAt range pos⟩ }

/-- The values of a packed header, which are read when the handler asks for them. -/
def invokeRangeBitfieldType (ofBit : Bool → T) (wrap : List (Indexed T) → Values)
    (record : HeaderRecord) (range : Range) (buffer : List UInt8) : Callback :=
  .rangeOf record range wrap
    { buffer := buffer
      COUNT := range.countUInt32
      readFunc := fun pos => (readBit pos).mapValue fun bit => ⟨ofBit bit, indexAt range pos⟩ }

/-- The values of a packed header of double bits, read when the handler asks for them. -/
def invokeRangeDoubleBitfieldType (ofBits : DoubleBit → T) (wrap : List (Indexed T) → Values)
    (record : HeaderRecord) (range : Range) (buffer : List UInt8) : Callback :=
  .rangeOf record range wrap
    { buffer := buffer
      COUNT := range.countUInt32
      readFunc := fun pos =>
        (readDoubleBit pos).mapValue fun bits => ⟨ofBits bits, indexAt range pos⟩ }

/-- `FromFixedSize` and `FromFixedSizeType`. -/
def fromFixedSize (codec : Codec T) (wrap : List (Indexed T) → Values) (record : HeaderRecord)
    (range : Range) : ObjectParser where
  requiredSize := range.countUInt32 * descriptorSize record.enumeration
  handler := invokeRangeOf codec wrap record range

/-- A packed header needs a bit for each index. -/
def fromBitfieldType (ofBit : Bool → T) (wrap : List (Indexed T) → Values) (record : HeaderRecord)
    (range : Range) : ObjectParser where
  requiredSize := numBytesInBits range.countUInt32
  handler := invokeRangeBitfieldType ofBit wrap record range

/-- A packed header of double bits needs two bits for each index. -/
def fromDoubleBitfieldType (ofBits : DoubleBit → T) (wrap : List (Indexed T) → Values)
    (record : HeaderRecord) (range : Range) : ObjectParser where
  requiredSize := numBytesInDoubleBits range.countUInt32
  handler := invokeRangeDoubleBitfieldType ofBits wrap record range

/-- Octet strings of consecutive indices; the variation is their length. -/
def parseRangeOfOctetData (buffer : List UInt8) (record : HeaderRecord) (range : Range)
    (pHandler : Bool) : Outcome :=
  if record.variation > 0 then
    let size := record.variation.toUInt32 * range.countUInt32
    if buffer.length < size.toNat then .error .notEnoughDataForObjects buffer
    else
      .ok pHandler
        (.rangeOf record range .octetString
          { buffer := buffer
            COUNT := range.countUInt32
            readFunc := fun pos =>
              (Reader.bytes record.variation.toNat).mapValue fun octets =>
                ⟨octets, indexAt range pos⟩ })
        (buffer.drop size.toNat)
  else .error .invalidObject buffer

/-- The objects of a range, by what the group and variation hold. -/
def parseRangeOfObjects (buffer : List UInt8) (record : HeaderRecord) (range : Range)
    (pHandler : Bool) : Outcome :=
  match rangeReader record.enumeration with
  | some (.fixedSize codec wrap) =>
    (fromFixedSize codec wrap record range).process buffer pHandler
  | some (.bitfield ofBit wrap) =>
    (fromBitfieldType ofBit wrap record range).process buffer pHandler
  | some (.doubleBitfield ofBits wrap) =>
    (fromDoubleBitfieldType ofBits wrap record range).process buffer pHandler
  | some .octetData => parseRangeOfOctetData buffer record range pHandler
  | none => .error .invalidObjectQualifier buffer

/-- `RangeParser::ParseHeader`: the range, and its objects where they are expected. -/
def parseHeader (buffer : List UInt8) (n : NumParser) (expectsContents : Bool)
    (record : HeaderRecord) (pHandler : Bool) : Outcome :=
  match n.parseRange buffer with
  | .error e => .error e buffer
  | .ok (range, buffer) =>
    if expectsContents then parseRangeOfObjects buffer record range pHandler
    else .ok pHandler (.range record range) buffer

end RangeParser

namespace CountParser

variable {T : Type}

/-- The values of a counted header, which are read when the handler asks for them. -/
def invokeCountOf (codec : Codec T) (wrap : List T → Values) (record : HeaderRecord)
    (count : UInt16) (buffer : List UInt8) : Callback :=
  .countOf record count wrap
    { buffer := buffer
      COUNT := count.toUInt32
      readFunc := fun _ => codec.reader }

/-- `From`. -/
def fromDescriptor (codec : Codec T) (wrap : List T → Values) (record : HeaderRecord)
    (count : UInt16) : ObjectParser where
  requiredSize := count.toUInt32 * descriptorSize record.enumeration
  handler := invokeCountOf codec wrap record count

/-- The objects of a count, by what the group and variation hold. -/
def parseCountOfObjects (buffer : List UInt8) (record : HeaderRecord) (count : UInt16)
    (pHandler : Bool) : Outcome :=
  match countReader record.enumeration with
  | some (.fixedSize codec wrap) =>
    (fromDescriptor codec wrap record count).process buffer pHandler
  | none => .error .invalidObjectQualifier buffer

/-- `CountParser::ParseHeader`: the count, and its objects where they are expected. -/
def parseHeader (buffer : List UInt8) (n : NumParser) (expectsContents : Bool)
    (record : HeaderRecord) (pHandler : Bool) : Outcome :=
  match n.parseCount buffer with
  | .error e => .error e buffer
  | .ok (count, buffer) =>
    if expectsContents then parseCountOfObjects buffer record count pHandler
    else .ok pHandler (.count record count) buffer

end CountParser

namespace CountIndexParser

variable {T : Type}

/-- A number and the value behind it. -/
def readPrefixed (n : NumParser) (value : Reader T) : Reader (Indexed T) :=
  ((readNum n).pair value).mapValue fun r => ⟨r.2, r.1⟩

/-- `InvokeCountOf` and `InvokeCountOfType`. -/
def invokeCountOf (codec : Codec T) (wrap : List (Indexed T) → Values) (record : HeaderRecord)
    (n : NumParser) (count : UInt16) (buffer : List UInt8) : Callback :=
  .prefixOf record count wrap
    { buffer := buffer
      COUNT := count.toUInt32
      readFunc := fun _ => readPrefixed n codec.reader }

/-- `From` and `FromType`. -/
def fromDescriptor (codec : Codec T) (wrap : List (Indexed T) → Values) (record : HeaderRecord)
    (n : NumParser) (count : UInt16) : ObjectParser where
  requiredSize :=
    count.toUInt32 * (descriptorSize record.enumeration + UInt32.ofNat n.SIZE)
  handler := invokeCountOf codec wrap record n count

/-- Octet strings behind their indices; the variation is their length. -/
def parseIndexPrefixedOctetData (buffer : List UInt8) (record : HeaderRecord) (n : NumParser)
    (count : UInt16) (pHandler : Bool) : Outcome :=
  if record.variation = 0 then .error .invalidObject buffer
  else
    let TOTAL_SIZE := count.toUInt32 * (UInt32.ofNat n.SIZE + record.variation.toUInt32)
    if buffer.length < TOTAL_SIZE.toNat then .error .notEnoughDataForObjects buffer
    else
      .ok pHandler
        (.prefixOf record count .octetString
          { buffer := buffer
            COUNT := count.toUInt32
            readFunc := fun _ => readPrefixed n (Reader.bytes record.variation.toNat) })
        (buffer.drop TOTAL_SIZE.toNat)

/-- The objects behind their indices, by what the group and variation hold. -/
def parseCountOfObjects (buffer : List UInt8) (record : HeaderRecord) (n : NumParser)
    (count : UInt16) (pHandler : Bool) : Outcome :=
  match prefixReader record.enumeration with
  | some (.fixedSize codec wrap) =>
    (fromDescriptor codec wrap record n count).process buffer pHandler
  | some .octetData => parseIndexPrefixedOctetData buffer record n count pHandler
  | none => .error .invalidObjectQualifier buffer

/-- `CountIndexParser::ParseHeader`: the count, and the objects with their indices. -/
def parseHeader (buffer : List UInt8) (n : NumParser) (record : HeaderRecord) (pHandler : Bool) :
    Outcome :=
  match n.parseCount buffer with
  | .error e => .error e buffer
  | .ok (count, buffer) => parseCountOfObjects buffer record n count pHandler

end CountIndexParser

namespace FreeFormatParser

open App.FreeFormatParser (objectReader)

/-- `ParseFreeFormat` of the object's own `ParseAny`, which reads it before it calls. -/
def parseFreeFormat (reads : List UInt8 → Bool) (record : HeaderRecord) (count : UInt8)
    (object : List UInt8) (rest : List UInt8) (pHandler : Bool) : Outcome :=
  if reads object then .ok pHandler (.freeFormat record count object) rest
  else .error .notEnoughDataForObjects rest

/-- `FreeFormat` headers have one object, whose size is in front of it. -/
def parseHeader (buffer : List UInt8) (record : HeaderRecord) (pHandler : Bool) : Outcome :=
  if buffer.length < 3 then .error .notEnoughDataForHeader buffer
  else
    let FREE_FORMAT_COUNT := buffer.getD 0 0
    let FREE_FORMAT_SIZE := leNat ((buffer.drop 1).take 2)
    let buffer := buffer.drop 3
    if FREE_FORMAT_COUNT ≠ 1 then .error .unreasonableObjectCount buffer
    else if buffer.length < FREE_FORMAT_SIZE then .error .notEnoughDataForObjects buffer
    else
      let copy := buffer.take FREE_FORMAT_SIZE
      let buffer := buffer.drop FREE_FORMAT_SIZE
      match objectReader record.enumeration with
      | none => .error .invalidObjectQualifier buffer
      | some reads => parseFreeFormat reads record FREE_FORMAT_COUNT copy buffer pHandler

end FreeFormatParser

namespace APDUParser

open App.APDUParser (WhiteList)

/-! ## Passes -/

/-- A header that has no objects. -/
def handleAllObjectsHeader (buffer : List UInt8) (record : HeaderRecord) (pHandler : Bool) :
    Outcome :=
  .ok pHandler (.allObjects record) buffer

/-- What follows a header is parsed by its qualifier. -/
def parseQualifier (buffer : List UInt8) (record : HeaderRecord) (expectsContents : Bool)
    (pHandler : Bool) : Outcome :=
  match record.getQualifierCode with
  | .allObjects => handleAllObjectsHeader buffer record pHandler
  | .uint8Cnt => CountParser.parseHeader buffer .uint8 expectsContents record pHandler
  | .uint16Cnt => CountParser.parseHeader buffer .uint16 expectsContents record pHandler
  | .uint8StartStop => RangeParser.parseHeader buffer .uint8 expectsContents record pHandler
  | .uint16StartStop => RangeParser.parseHeader buffer .uint16 expectsContents record pHandler
  | .uint8CntUint8Index => CountIndexParser.parseHeader buffer .uint8 record pHandler
  | .uint16CntUint16Index => CountIndexParser.parseHeader buffer .uint16 record pHandler
  | .uint16FreeFormat => FreeFormatParser.parseHeader buffer record pHandler
  | .undefined => .error .unknownQualifier buffer

/-- Parse the header in front; `count` is its number. -/
def parseHeader (buffer : List UInt8) (count : Nat) (expectsContents : Bool) (pHandler : Bool)
    (pWhiteList : Option WhiteList) : Outcome :=
  if buffer.length < 3 then .error .notEnoughDataForHeader buffer
  else
    let gv := GroupVariationRecord.getRecord (buffer.getD 0 0) (buffer.getD 1 0)
    let qualifier := buffer.getD 2 0
    let buffer := buffer.drop 3
    let record : HeaderRecord := { gv with qualifier := qualifier, headerIndex := count }
    if gv.enumeration = .unknown then .error .unknownObject buffer
    else
      match pWhiteList with
      | none => parseQualifier buffer record expectsContents pHandler
      | some isAllowed =>
        .after [.isAllowed count gv.enumeration (.fromType qualifier)]
          (if isAllowed count gv.enumeration (.fromType qualifier) then
            parseQualifier buffer record expectsContents pHandler
          else .error .notOnWhitelist buffer)

/-- The loop of a pass.  A header takes at least three bytes, so the length is enough fuel. -/
def parseHeaders (expectsContents : Bool) (pHandler : Bool) (pWhiteList : Option WhiteList) :
    Nat → (count : Nat) → List UInt8 → ParseResult × List HandlerCall
  | 0, _, _ => (.ok, [])
  | fuel + 1, count, buffer =>
    if buffer.isEmpty then (.ok, [])
    else
      let o := parseHeader buffer count expectsContents pHandler pWhiteList
      if o.result = .ok then
        let rest := parseHeaders expectsContents pHandler pWhiteList fuel (count + 1) o.buffer
        (rest.1, o.calls ++ rest.2)
      else (o.result, o.calls)

/-- Parse all headers, telling the handler of each. -/
def parseSinglePass (buffer : List UInt8) (expectsContents : Bool) (pHandler : Bool)
    (pWhiteList : Option WhiteList) : ParseResult × List HandlerCall :=
  parseHeaders expectsContents pHandler pWhiteList buffer.length 0 buffer

/-- White-listing but no handling in the first pass; the handler but no white-list in the second. -/
def parse (buffer : List UInt8) (expectsContents : Bool) (isAllowed : WhiteList) :
    ParseResult × List HandlerCall :=
  let first := parseSinglePass buffer expectsContents false (some isAllowed)
  if first.1 = .ok then
    let second := parseSinglePass buffer expectsContents true none
    (second.1, first.2 ++ second.2)
  else first

end APDUParser
end Handled
end App
end Dnp3
