import Dnp3.App.Objects

/-!
# The object parser

`APDUParser` reads the object headers of a fragment one after the other.  It makes two passes: the
first checks everything and asks the white-list of the handler, and only when it succeeds the second
hands the headers to the handler.  Here a pass returns its result and the headers in order, each
with the values its collection yields when the handler iterates it.

How the objects of a header are read is looked up by its group variation, separately for ranges,
counts and index-prefixed counts; a header that asks for contents needs an entry there.

The reasons to reject a fragment are those of `ParseResult`; for example it is too short, a header
has an object or a qualifier that is not known, a range is the wrong way around, or a count is zero.
A pass stops at the first of them.  The loop over the headers takes fuel; every header takes three
bytes at least, so the number of bytes is enough.  `App.HandledParser` has the functions again with
the calls they make.
-/

namespace Dnp3
namespace App

open Library

/-- The result of parsing objects. -/
inductive ParseResult where
  | ok
  | notOnWhitelist
  | notEnoughDataForHeader
  | notEnoughDataForRange
  | notEnoughDataForObjects
  | unreasonableObjectCount
  | unknownObject
  | unknownQualifier
  | invalidObjectQualifier
  | invalidObject
  | badStartStop
  | countOfZero
  deriving DecidableEq, Repr

/-! ## Ranges -/

/-- A range of indices; it is empty when the start is behind the stop. -/
structure Range where
  start : UInt16
  stop : UInt16
  deriving DecidableEq, Repr

namespace Range

/-- The range that no index is in. -/
def invalid : Range := { start := 1, stop := 0 }

/-- The first index is not behind the last. -/
def isValid (r : Range) : Bool := r.start ≤ r.stop

/-- The number of indices. -/
def count (r : Range) : Nat := if r.isValid then r.stop.toNat - r.start.toNat + 1 else 0

/-- Drop the first index; the last one leaves the range invalid. -/
def advance (r : Range) : Range :=
  if r.isValid then
    if r.start < r.stop then { r with start := r.start + 1 } else invalid
  else r

/-- The indices that are in both ranges. -/
def intersection (r other : Range) : Range where
  start := max r.start other.start
  stop := min r.stop other.stop

/-- The least range that both ranges are in. -/
def union (r other : Range) : Range where
  start := min r.start other.start
  stop := max r.stop other.stop

/-- One-byte headers can hold the range. -/
def isOneByte (r : Range) : Bool := r.isValid && r.start ≤ 255 && r.stop ≤ 255

end Range

/-! ## What the handler receives -/

/-- The values of a header, as its collection yields them. -/
inductive Values where
  | iinValue (values : List (Indexed IINValue))
  | binary (values : List (Indexed Binary))
  | doubleBitBinary (values : List (Indexed DoubleBitBinary))
  | binaryOutputStatus (values : List (Indexed BinaryOutputStatus))
  | counter (values : List (Indexed Counter))
  | frozenCounter (values : List (Indexed FrozenCounter))
  | analog (values : List (Indexed Analog))
  | analogOutputStatus (values : List (Indexed AnalogOutputStatus))
  | octetString (values : List (Indexed (List UInt8)))
  | timeAndInterval (values : List (Indexed TimeAndInterval))
  | group121Var1 (values : List (Indexed SecurityStat))
  | group122Var1 (values : List (Indexed SecurityStat))
  | group122Var2 (values : List (Indexed SecurityStat))
  | binaryCommandEvent (values : List (Indexed BinaryCommandEvent))
  | analogCommandEvent (values : List (Indexed AnalogCommandEvent))
  | controlRelayOutputBlock (values : List (Indexed ControlRelayOutputBlock))
  | analogOutputInt16 (values : List (Indexed AnalogOutputInt16))
  | analogOutputInt32 (values : List (Indexed AnalogOutputInt32))
  | analogOutputFloat32 (values : List (Indexed AnalogOutputFloat32))
  | analogOutputDouble64 (values : List (Indexed AnalogOutputDouble64))
  | group50Var1 (values : List DNPTime)
  | group51Var1 (values : List DNPTime)
  | group51Var2 (values : List DNPTime)
  | group52Var1 (values : List UInt16)
  | group52Var2 (values : List UInt16)
  | group120Var4 (values : List UInt16)
  deriving DecidableEq, Repr

/-- A call of `OnHeader`. -/
inductive ObjectHeader where
  | allObjects (record : HeaderRecord)
  | count (record : HeaderRecord) (count : UInt16)
  | range (record : HeaderRecord) (range : Range)
  | countOf (record : HeaderRecord) (count : UInt16) (values : Values)
  | rangeOf (record : HeaderRecord) (range : Range) (values : Values)
  | prefixOf (record : HeaderRecord) (count : UInt16) (values : Values)
  | freeFormat (record : HeaderRecord) (object : List UInt8)
  deriving DecidableEq, Repr

/-! ## Readers -/

/-- The objects at positions `pos, pos + 1, …` of a collection; `read` is given the bytes that are
left and the position, and the size of one object says how many bytes it takes. -/
def collect {T : Type} (size : Nat) (read : List UInt8 → Nat → T) :
    List UInt8 → (pos count : Nat) → List T
  | _, _, 0 => []
  | b, pos, count + 1 => read b pos :: collect size read (b.drop size) (pos + 1) count

/-- The bit at a position, from the lowest bit of the first byte on. -/
def getBit (buffer : List UInt8) (position : Nat) : Bool :=
  buffer.getD (position / 8) 0 &&& (1 <<< UInt8.ofNat (position % 8)) != 0

/-- The state in the two bits of an index. -/
def getDoubleBit (buffer : List UInt8) (index : Nat) : DoubleBit :=
  .fromType ((buffer.getD (index / 4) 0 >>> UInt8.ofNat (2 * (index % 4))) &&& 0x03)

/-- The bytes that so many bits are packed in. -/
def numBytesInBits (numBits : Nat) : Nat :=
  if numBits % 8 = 0 then numBits / 8 else numBits / 8 + 1

/-- The bytes that so many pairs of bits are packed in. -/
def numBytesInDoubleBits (numBits : Nat) : Nat :=
  if numBits % 4 = 0 then numBits / 4 else numBits / 4 + 1

/-- How the objects of a range are read. -/
inductive RangeReader where
  | fixedSize {T : Type} (codec : Codec T) (wrap : List (Indexed T) → Values)
  | bitfield {T : Type} (ofBit : Bool → T) (wrap : List (Indexed T) → Values)
  | doubleBitfield {T : Type} (ofBits : DoubleBit → T) (wrap : List (Indexed T) → Values)
  | octetData

/-- `RangeParser::ParseRangeOfObjects`. -/
def rangeReader : GroupVariation → Option RangeReader
  | .group1Var1 => some (.bitfield Binary.ofValue .binary)
  | .group1Var2 => some (.fixedSize group1Var2.codec .binary)
  | .group3Var1 => some (.doubleBitfield DoubleBitBinary.ofValue .doubleBitBinary)
  | .group10Var1 => some (.bitfield BinaryOutputStatus.ofValue .binaryOutputStatus)
  | .group3Var2 => some (.fixedSize group3Var2.codec .doubleBitBinary)
  | .group10Var2 => some (.fixedSize group10Var2.codec .binaryOutputStatus)
  | .group20Var1 => some (.fixedSize group20Var1.codec .counter)
  | .group20Var2 => some (.fixedSize group20Var2.codec .counter)
  | .group20Var5 => some (.fixedSize group20Var5.codec .counter)
  | .group20Var6 => some (.fixedSize group20Var6.codec .counter)
  | .group21Var1 => some (.fixedSize group21Var1.codec .frozenCounter)
  | .group21Var2 => some (.fixedSize group21Var2.codec .frozenCounter)
  | .group21Var5 => some (.fixedSize group21Var5.codec .frozenCounter)
  | .group21Var6 => some (.fixedSize group21Var6.codec .frozenCounter)
  | .group21Var9 => some (.fixedSize group21Var9.codec .frozenCounter)
  | .group21Var10 => some (.fixedSize group21Var10.codec .frozenCounter)
  | .group30Var1 => some (.fixedSize group30Var1.codec .analog)
  | .group30Var2 => some (.fixedSize group30Var2.codec .analog)
  | .group30Var3 => some (.fixedSize group30Var3.codec .analog)
  | .group30Var4 => some (.fixedSize group30Var4.codec .analog)
  | .group30Var5 => some (.fixedSize group30Var5.codec .analog)
  | .group30Var6 => some (.fixedSize group30Var6.codec .analog)
  | .group40Var1 => some (.fixedSize group40Var1.codec .analogOutputStatus)
  | .group40Var2 => some (.fixedSize group40Var2.codec .analogOutputStatus)
  | .group40Var3 => some (.fixedSize group40Var3.codec .analogOutputStatus)
  | .group40Var4 => some (.fixedSize group40Var4.codec .analogOutputStatus)
  | .group50Var4 => some (.fixedSize group50Var4.codec .timeAndInterval)
  | .group80Var1 => some (.bitfield IINValue.mk .iinValue)
  | .group110Var0 => some .octetData
  | .group121Var1 => some (.fixedSize group121Var1.codec .group121Var1)
  | _ => none

/-- How the objects of a count are read. -/
inductive CountReader where
  | fixedSize {T : Type} (codec : Codec T) (wrap : List T → Values)

/-- `CountParser::ParseCountOfObjects`. -/
def countReader : GroupVariation → Option CountReader
  | .group50Var1 => some (.fixedSize group50Var1.codec .group50Var1)
  | .group51Var1 => some (.fixedSize group51Var1.codec .group51Var1)
  | .group51Var2 => some (.fixedSize group51Var2.codec .group51Var2)
  | .group52Var1 => some (.fixedSize group52Var1.codec .group52Var1)
  | .group52Var2 => some (.fixedSize group52Var2.codec .group52Var2)
  | .group120Var4 => some (.fixedSize group120Var4.codec .group120Var4)
  | _ => none

/-- How index-prefixed objects are read. -/
inductive PrefixReader where
  | fixedSize {T : Type} (codec : Codec T) (wrap : List (Indexed T) → Values)
  | octetData

/-- `CountIndexParser::ParseCountOfObjects`. -/
def prefixReader : GroupVariation → Option PrefixReader
  | .group2Var1 => some (.fixedSize group2Var1.codec .binary)
  | .group2Var2 => some (.fixedSize group2Var2.codec .binary)
  | .group2Var3 => some (.fixedSize group2Var3.codec .binary)
  | .group4Var1 => some (.fixedSize group4Var1.codec .doubleBitBinary)
  | .group4Var2 => some (.fixedSize group4Var2.codec .doubleBitBinary)
  | .group4Var3 => some (.fixedSize group4Var3.codec .doubleBitBinary)
  | .group11Var1 => some (.fixedSize group11Var1.codec .binaryOutputStatus)
  | .group11Var2 => some (.fixedSize group11Var2.codec .binaryOutputStatus)
  | .group12Var1 => some (.fixedSize group12Var1.codec .controlRelayOutputBlock)
  | .group13Var1 => some (.fixedSize group13Var1.codec .binaryCommandEvent)
  | .group13Var2 => some (.fixedSize group13Var2.codec .binaryCommandEvent)
  | .group22Var1 => some (.fixedSize group22Var1.codec .counter)
  | .group22Var2 => some (.fixedSize group22Var2.codec .counter)
  | .group22Var5 => some (.fixedSize group22Var5.codec .counter)
  | .group22Var6 => some (.fixedSize group22Var6.codec .counter)
  | .group23Var1 => some (.fixedSize group23Var1.codec .frozenCounter)
  | .group23Var2 => some (.fixedSize group23Var2.codec .frozenCounter)
  | .group23Var5 => some (.fixedSize group23Var5.codec .frozenCounter)
  | .group23Var6 => some (.fixedSize group23Var6.codec .frozenCounter)
  | .group32Var1 => some (.fixedSize group32Var1.codec .analog)
  | .group32Var2 => some (.fixedSize group32Var2.codec .analog)
  | .group32Var3 => some (.fixedSize group32Var3.codec .analog)
  | .group32Var4 => some (.fixedSize group32Var4.codec .analog)
  | .group32Var5 => some (.fixedSize group32Var5.codec .analog)
  | .group32Var6 => some (.fixedSize group32Var6.codec .analog)
  | .group32Var7 => some (.fixedSize group32Var7.codec .analog)
  | .group32Var8 => some (.fixedSize group32Var8.codec .analog)
  | .group41Var1 => some (.fixedSize group41Var1.codec .analogOutputInt32)
  | .group41Var2 => some (.fixedSize group41Var2.codec .analogOutputInt16)
  | .group41Var3 => some (.fixedSize group41Var3.codec .analogOutputFloat32)
  | .group41Var4 => some (.fixedSize group41Var4.codec .analogOutputDouble64)
  | .group42Var1 => some (.fixedSize group42Var1.codec .analogOutputStatus)
  | .group42Var2 => some (.fixedSize group42Var2.codec .analogOutputStatus)
  | .group42Var3 => some (.fixedSize group42Var3.codec .analogOutputStatus)
  | .group42Var4 => some (.fixedSize group42Var4.codec .analogOutputStatus)
  | .group42Var5 => some (.fixedSize group42Var5.codec .analogOutputStatus)
  | .group42Var6 => some (.fixedSize group42Var6.codec .analogOutputStatus)
  | .group42Var7 => some (.fixedSize group42Var7.codec .analogOutputStatus)
  | .group42Var8 => some (.fixedSize group42Var8.codec .analogOutputStatus)
  | .group43Var1 => some (.fixedSize group43Var1.codec .analogCommandEvent)
  | .group43Var2 => some (.fixedSize group43Var2.codec .analogCommandEvent)
  | .group43Var3 => some (.fixedSize group43Var3.codec .analogCommandEvent)
  | .group43Var4 => some (.fixedSize group43Var4.codec .analogCommandEvent)
  | .group43Var5 => some (.fixedSize group43Var5.codec .analogCommandEvent)
  | .group43Var6 => some (.fixedSize group43Var6.codec .analogCommandEvent)
  | .group43Var7 => some (.fixedSize group43Var7.codec .analogCommandEvent)
  | .group43Var8 => some (.fixedSize group43Var8.codec .analogCommandEvent)
  | .group50Var4 => some (.fixedSize group50Var4.codec .timeAndInterval)
  | .group111Var0 => some .octetData
  | .group122Var1 => some (.fixedSize group122Var1.codec .group122Var1)
  | .group122Var2 => some (.fixedSize group122Var2.codec .group122Var2)
  | _ => none

/-! ## Numbers -/

/-- A one or two byte unsigned integer parser. -/
abbrev NumParser := IndexType

namespace NumParser

/-- Read a number and advance. -/
def readNum (n : NumParser) (buffer : List UInt8) : UInt16 × List UInt8 :=
  (UInt16.ofNat (n.value buffer), buffer.drop n.SIZE)

/-- Read a count, which may not be zero. -/
def parseCount (n : NumParser) (buffer : List UInt8) :
    Except ParseResult (UInt16 × List UInt8) :=
  if buffer.length < n.SIZE then .error .notEnoughDataForRange
  else if (readNum n buffer).1 = 0 then .error .countOfZero
  else .ok (readNum n buffer)

/-- Read the first and the last index, which may not be the other way around. -/
def parseRange (n : NumParser) (buffer : List UInt8) : Except ParseResult (Range × List UInt8) :=
  if buffer.length < 2 * n.SIZE then .error .notEnoughDataForRange
  else
    let (start, buffer) := readNum n buffer
    let (stop, buffer) := readNum n buffer
    let range : Range := { start := start, stop := stop }
    if range.isValid then .ok (range, buffer) else .error .badStartStop

end NumParser

/-! ## Parsing one header -/

/-- Parsing consumes bytes: on success it gives what the handler receives and the bytes left. -/
abbrev Parsed := Except ParseResult (ObjectHeader × List UInt8)

/-- Check that the objects are there, and advance behind them. -/
def process (buffer : List UInt8) (requiredSize : Nat) (header : ObjectHeader) : Parsed :=
  if buffer.length < requiredSize then .error .notEnoughDataForObjects
  else .ok (header, buffer.drop requiredSize)

namespace RangeParser

/-- The index of the object at a position of the range. -/
def indexAt (range : Range) (pos : Nat) : UInt16 := range.start + UInt16.ofNat pos

/-- Octet strings of consecutive indices; the variation is their length. -/
def parseRangeOfOctetData (buffer : List UInt8) (record : HeaderRecord) (range : Range) : Parsed :=
  if record.variation > 0 then
    let size := record.variation.toNat
    process buffer (size * range.count) (.rangeOf record range (.octetString
      (collect size (fun b pos => ⟨b.take size, indexAt range pos⟩) buffer 0 range.count)))
  else .error .invalidObject

/-- The objects of a range, by what the group and variation hold. -/
def parseRangeOfObjects (buffer : List UInt8) (record : HeaderRecord) (range : Range) : Parsed :=
  match rangeReader record.enumeration with
  | some (.fixedSize codec wrap) =>
    process buffer (range.count * codec.size) (.rangeOf record range (wrap
      (collect codec.size (fun b pos => ⟨codec.read b, indexAt range pos⟩) buffer 0 range.count)))
  | some (.bitfield ofBit wrap) =>
    process buffer (numBytesInBits range.count) (.rangeOf record range (wrap
      (collect 0 (fun b pos => ⟨ofBit (getBit b pos), indexAt range pos⟩) buffer 0 range.count)))
  | some (.doubleBitfield ofBits wrap) =>
    process buffer (numBytesInDoubleBits range.count) (.rangeOf record range (wrap
      (collect 0 (fun b pos => ⟨ofBits (getDoubleBit b pos), indexAt range pos⟩) buffer 0
        range.count)))
  | some .octetData => parseRangeOfOctetData buffer record range
  | none => .error .invalidObjectQualifier

/-- The range, and its objects where they are expected. -/
def parseHeader (buffer : List UInt8) (n : NumParser) (expectsContents : Bool)
    (record : HeaderRecord) : Parsed :=
  match n.parseRange buffer with
  | .error e => .error e
  | .ok (range, buffer) =>
    if expectsContents then parseRangeOfObjects buffer record range
    else .ok (.range record range, buffer)

end RangeParser

namespace CountParser

/-- The objects of a count, by what the group and variation hold. -/
def parseCountOfObjects (buffer : List UInt8) (record : HeaderRecord) (count : UInt16) : Parsed :=
  match countReader record.enumeration with
  | some (.fixedSize codec wrap) =>
    process buffer (count.toNat * codec.size) (.countOf record count (wrap
      (collect codec.size (fun b _ => codec.read b) buffer 0 count.toNat)))
  | none => .error .invalidObjectQualifier

/-- The count, and its objects where they are expected. -/
def parseHeader (buffer : List UInt8) (n : NumParser) (expectsContents : Bool)
    (record : HeaderRecord) : Parsed :=
  match n.parseCount buffer with
  | .error e => .error e
  | .ok (count, buffer) =>
    if expectsContents then parseCountOfObjects buffer record count
    else .ok (.count record count, buffer)

end CountParser

namespace CountIndexParser

/-- Octet strings behind their indices; the variation is their length. -/
def parseIndexPrefixedOctetData (buffer : List UInt8) (record : HeaderRecord) (n : NumParser)
    (count : UInt16) : Parsed :=
  if record.variation = 0 then .error .invalidObject
  else
    let size := record.variation.toNat
    process buffer (count.toNat * (n.SIZE + size)) (.prefixOf record count (.octetString
      (collect (n.SIZE + size)
        (fun b _ => ⟨(b.drop n.SIZE).take size, (n.readNum b).1⟩) buffer 0 count.toNat)))

/-- The objects behind their indices, by what the group and variation hold. -/
def parseCountOfObjects (buffer : List UInt8) (record : HeaderRecord) (n : NumParser)
    (count : UInt16) : Parsed :=
  match prefixReader record.enumeration with
  | some (.fixedSize codec wrap) =>
    process buffer (count.toNat * (codec.size + n.SIZE)) (.prefixOf record count (wrap
      (collect (codec.size + n.SIZE)
        (fun b _ => ⟨codec.read (b.drop n.SIZE), (n.readNum b).1⟩) buffer 0 count.toNat)))
  | some .octetData => parseIndexPrefixedOctetData buffer record n count
  | none => .error .invalidObjectQualifier

/-- The contents are expected whatever the settings are. -/
def parseHeader (buffer : List UInt8) (n : NumParser) (record : HeaderRecord) : Parsed :=
  match n.parseCount buffer with
  | .error e => .error e
  | .ok (count, buffer) => parseCountOfObjects buffer record n count

end CountIndexParser

namespace FreeFormatParser

/-- `PrefixFields::Read` of `fields` length-prefixed fields: the bytes behind them. -/
def prefixFieldsRest (fields : Nat) (buffer : List UInt8) : Option (List UInt8) :=
  let lengths := (List.range fields).map fun i => leNat ((buffer.drop (2 * i)).take 2)
  if buffer.length < 2 * fields then none
  else if buffer.length - 2 * fields < lengths.sum then none
  else some (buffer.drop (2 * fields + lengths.sum))

/-- The object has its fixed part of `minFixed` bytes and its length-prefixed fields; with `exact`
nothing may follow them.  Objects of less than `minSize` bytes are not looked at. -/
def readsObject (minSize minFixed fields : Nat) (exact : Bool) (object : List UInt8) : Bool :=
  if object.length < minSize then false
  else
    match prefixFieldsRest fields (object.drop minFixed) with
    | none => false
    | some rest => !exact || rest.isEmpty

/-- The `Read` of the object, when free format is supported for it. -/
def objectReader : GroupVariation → Option (List UInt8 → Bool)
  | .group120Var1 => some (readsObject 8 8 0 false)
  | .group120Var2 => some (readsObject 6 6 0 false)
  | .group120Var5 => some (readsObject 11 9 1 false)
  | .group120Var6 => some (readsObject 6 6 0 false)
  | .group120Var7 => some (readsObject 15 15 0 false)
  | .group120Var10 => some (readsObject 16 10 3 true)
  | .group120Var11 => some (readsObject 5 1 2 true)
  | .group120Var12 => some (readsObject 8 6 1 true)
  | .group120Var13 => some (readsObject 8 6 1 true)
  | .group120Var14 => some (readsObject 0 0 0 false)
  | .group120Var15 => some (readsObject 0 0 0 false)
  | _ => none

/-- A free format header has one object, whose size is in front of it. -/
def parseHeader (buffer : List UInt8) (record : HeaderRecord) : Parsed :=
  if buffer.length < 3 then .error .notEnoughDataForHeader
  else
    let size := leNat ((buffer.drop 1).take 2)
    let objects := buffer.drop 3
    if buffer.getD 0 0 ≠ 1 then .error .unreasonableObjectCount
    else if objects.length < size then .error .notEnoughDataForObjects
    else
      match objectReader record.enumeration with
      | none => .error .invalidObjectQualifier
      | some reads =>
        if reads (objects.take size) then
          .ok (.freeFormat record (objects.take size), objects.drop size)
        else .error .notEnoughDataForObjects

end FreeFormatParser

namespace APDUParser

/-- `IWhiteList::IsAllowed`: the number of the header, its object and its qualifier. -/
abbrev WhiteList := Nat → GroupVariation → QualifierCode → Bool

/-- What follows a header is parsed by its qualifier. -/
def parseQualifier (buffer : List UInt8) (record : HeaderRecord) (expectsContents : Bool) :
    Parsed :=
  match record.getQualifierCode with
  | .allObjects => .ok (.allObjects record, buffer)
  | .uint8Cnt => CountParser.parseHeader buffer .uint8 expectsContents record
  | .uint16Cnt => CountParser.parseHeader buffer .uint16 expectsContents record
  | .uint8StartStop => RangeParser.parseHeader buffer .uint8 expectsContents record
  | .uint16StartStop => RangeParser.parseHeader buffer .uint16 expectsContents record
  | .uint8CntUint8Index => CountIndexParser.parseHeader buffer .uint8 record
  | .uint16CntUint16Index => CountIndexParser.parseHeader buffer .uint16 record
  | .uint16FreeFormat => FreeFormatParser.parseHeader buffer record
  | .undefined => .error .unknownQualifier

/-- Parse the header in front; `count` is its number. -/
def parseHeader (buffer : List UInt8) (count : Nat) (expectsContents : Bool)
    (whiteList : Option WhiteList) : Parsed :=
  if buffer.length < 3 then .error .notEnoughDataForHeader
  else
    let gv := GroupVariationRecord.getRecord (buffer.getD 0 0) (buffer.getD 1 0)
    let qualifier := buffer.getD 2 0
    if gv.enumeration = .unknown then .error .unknownObject
    else if whiteList.any fun allowed => !allowed count gv.enumeration (.fromType qualifier) then
      .error .notOnWhitelist
    else
      parseQualifier (buffer.drop 3)
        { gv with qualifier := qualifier, headerIndex := count } expectsContents

/-- The loop of a pass.  A header takes at least three bytes, so the length is enough fuel. -/
def parseHeaders (expectsContents : Bool) (whiteList : Option WhiteList) :
    Nat → (count : Nat) → List UInt8 → ParseResult × List ObjectHeader
  | 0, _, _ => (.ok, [])
  | fuel + 1, count, buffer =>
    if buffer.isEmpty then (.ok, [])
    else
      match parseHeader buffer count expectsContents whiteList with
      | .error e => (e, [])
      | .ok (header, rest) =>
        let (result, headers) := parseHeaders expectsContents whiteList fuel (count + 1) rest
        (result, header :: headers)

@[simp] theorem parseHeaders_nil (expectsContents : Bool) (whiteList : Option WhiteList)
    (fuel count : Nat) : parseHeaders expectsContents whiteList fuel count [] = (.ok, []) := by
  cases fuel <;> rfl

/-- A header that is parsed is in front of the others. -/
theorem parseHeaders_ok {expectsContents : Bool} {whiteList : Option WhiteList}
    {buffer rest : List UInt8} {count : Nat} {header : ObjectHeader} (fuel : Nat)
    (h : parseHeader buffer count expectsContents whiteList = .ok (header, rest)) :
    parseHeaders expectsContents whiteList (fuel + 1) count buffer =
      ((parseHeaders expectsContents whiteList fuel (count + 1) rest).1,
        header :: (parseHeaders expectsContents whiteList fuel (count + 1) rest).2) := by
  have hne : ¬ buffer.isEmpty = true := by
    intro hempty
    rw [List.isEmpty_iff.mp hempty, parseHeader] at h
    cases h
  rw [parseHeaders, if_neg hne, h]

/-- All headers up to the first that cannot be parsed, and what is wrong with that one. -/
def parseSinglePass (buffer : List UInt8) (expectsContents : Bool)
    (whiteList : Option WhiteList) : ParseResult × List ObjectHeader :=
  parseHeaders expectsContents whiteList buffer.length 0 buffer

/-- Check everything in a first pass; hand the headers over in a second. -/
def parse (buffer : List UInt8) (expectsContents : Bool) (whiteList : WhiteList) :
    ParseResult × List ObjectHeader :=
  let (result, _) := parseSinglePass buffer expectsContents (some whiteList)
  if result = .ok then parseSinglePass buffer expectsContents none else (result, [])

end APDUParser
end App
end Dnp3
