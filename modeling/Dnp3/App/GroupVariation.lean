import Mathlib.Data.List.Basic

/-!
# Group variations and qualifiers

The object types of the application layer.  A `GroupVariation` is the enumeration the parser and the
outstation switch over; `GroupVariationRecord.getRecord` finds it, and the kind of object it is,
from the two bytes in an object header.  Octet strings and virtual terminal objects use the
variation byte for a length, so any variation of groups 110 to 113 is the group's variation zero.

The enumeration and the types are the tables of the source.  A variation that is not in the
enumeration is `unknown`, also when the group is known, and most handlers reject it; its group and
variation stay in the record, as they stood in the header.  `QualifierCode` is the last byte of an
object header.  It says whether a range, a count or a count with indices follows, and in how many
bytes; `fromType_toType` states that the codes of the known qualifiers come back as themselves.
-/

namespace Dnp3
namespace App

/-- A group and a variation as they stand in a header. -/
structure GroupVariationID where
  group : UInt8
  variation : UInt8
  deriving DecidableEq, Repr

/-- The known group variations. -/
inductive GroupVariation where
  | group1Var0 | group1Var1 | group1Var2
  | group2Var0 | group2Var1 | group2Var2 | group2Var3
  | group3Var0 | group3Var1 | group3Var2
  | group4Var0 | group4Var1 | group4Var2 | group4Var3
  | group10Var0 | group10Var1 | group10Var2
  | group11Var0 | group11Var1 | group11Var2
  | group12Var0 | group12Var1
  | group13Var1 | group13Var2
  | group20Var0 | group20Var1 | group20Var2 | group20Var5 | group20Var6
  | group21Var0 | group21Var1 | group21Var2 | group21Var5 | group21Var6 | group21Var9
  | group21Var10
  | group22Var0 | group22Var1 | group22Var2 | group22Var5 | group22Var6
  | group23Var0 | group23Var1 | group23Var2 | group23Var5 | group23Var6
  | group30Var0 | group30Var1 | group30Var2 | group30Var3 | group30Var4 | group30Var5
  | group30Var6
  | group32Var0 | group32Var1 | group32Var2 | group32Var3 | group32Var4 | group32Var5
  | group32Var6 | group32Var7 | group32Var8
  | group40Var0 | group40Var1 | group40Var2 | group40Var3 | group40Var4
  | group41Var0 | group41Var1 | group41Var2 | group41Var3 | group41Var4
  | group42Var0 | group42Var1 | group42Var2 | group42Var3 | group42Var4 | group42Var5
  | group42Var6 | group42Var7 | group42Var8
  | group43Var1 | group43Var2 | group43Var3 | group43Var4 | group43Var5 | group43Var6
  | group43Var7 | group43Var8
  | group50Var1 | group50Var4
  | group51Var1 | group51Var2
  | group52Var1 | group52Var2
  | group60Var1 | group60Var2 | group60Var3 | group60Var4
  | group70Var1 | group70Var2 | group70Var3 | group70Var4 | group70Var5 | group70Var6
  | group70Var7 | group70Var8
  | group80Var1
  | group110Var0
  | group111Var0
  | group112Var0
  | group113Var0
  | group120Var1 | group120Var2 | group120Var3 | group120Var4 | group120Var5
  | group120Var6 | group120Var7 | group120Var8 | group120Var9 | group120Var10
  | group120Var11 | group120Var12 | group120Var13 | group120Var14 | group120Var15
  | group121Var0 | group121Var1
  | group122Var0 | group122Var1 | group122Var2
  | unknown
  deriving DecidableEq, Repr

/-- `GroupVariationFromType`: the group in the upper byte, the variation in the lower. -/
def GroupVariation.fromType (arg : UInt16) : GroupVariation :=
  match arg.toNat with
  | 0x100 => .group1Var0
  | 0x101 => .group1Var1
  | 0x102 => .group1Var2
  | 0x200 => .group2Var0
  | 0x201 => .group2Var1
  | 0x202 => .group2Var2
  | 0x203 => .group2Var3
  | 0x300 => .group3Var0
  | 0x301 => .group3Var1
  | 0x302 => .group3Var2
  | 0x400 => .group4Var0
  | 0x401 => .group4Var1
  | 0x402 => .group4Var2
  | 0x403 => .group4Var3
  | 0xA00 => .group10Var0
  | 0xA01 => .group10Var1
  | 0xA02 => .group10Var2
  | 0xB00 => .group11Var0
  | 0xB01 => .group11Var1
  | 0xB02 => .group11Var2
  | 0xC00 => .group12Var0
  | 0xC01 => .group12Var1
  | 0xD01 => .group13Var1
  | 0xD02 => .group13Var2
  | 0x1400 => .group20Var0
  | 0x1401 => .group20Var1
  | 0x1402 => .group20Var2
  | 0x1405 => .group20Var5
  | 0x1406 => .group20Var6
  | 0x1500 => .group21Var0
  | 0x1501 => .group21Var1
  | 0x1502 => .group21Var2
  | 0x1505 => .group21Var5
  | 0x1506 => .group21Var6
  | 0x1509 => .group21Var9
  | 0x150A => .group21Var10
  | 0x1600 => .group22Var0
  | 0x1601 => .group22Var1
  | 0x1602 => .group22Var2
  | 0x1605 => .group22Var5
  | 0x1606 => .group22Var6
  | 0x1700 => .group23Var0
  | 0x1701 => .group23Var1
  | 0x1702 => .group23Var2
  | 0x1705 => .group23Var5
  | 0x1706 => .group23Var6
  | 0x1E00 => .group30Var0
  | 0x1E01 => .group30Var1
  | 0x1E02 => .group30Var2
  | 0x1E03 => .group30Var3
  | 0x1E04 => .group30Var4
  | 0x1E05 => .group30Var5
  | 0x1E06 => .group30Var6
  | 0x2000 => .group32Var0
  | 0x2001 => .group32Var1
  | 0x2002 => .group32Var2
  | 0x2003 => .group32Var3
  | 0x2004 => .group32Var4
  | 0x2005 => .group32Var5
  | 0x2006 => .group32Var6
  | 0x2007 => .group32Var7
  | 0x2008 => .group32Var8
  | 0x2800 => .group40Var0
  | 0x2801 => .group40Var1
  | 0x2802 => .group40Var2
  | 0x2803 => .group40Var3
  | 0x2804 => .group40Var4
  | 0x2900 => .group41Var0
  | 0x2901 => .group41Var1
  | 0x2902 => .group41Var2
  | 0x2903 => .group41Var3
  | 0x2904 => .group41Var4
  | 0x2A00 => .group42Var0
  | 0x2A01 => .group42Var1
  | 0x2A02 => .group42Var2
  | 0x2A03 => .group42Var3
  | 0x2A04 => .group42Var4
  | 0x2A05 => .group42Var5
  | 0x2A06 => .group42Var6
  | 0x2A07 => .group42Var7
  | 0x2A08 => .group42Var8
  | 0x2B01 => .group43Var1
  | 0x2B02 => .group43Var2
  | 0x2B03 => .group43Var3
  | 0x2B04 => .group43Var4
  | 0x2B05 => .group43Var5
  | 0x2B06 => .group43Var6
  | 0x2B07 => .group43Var7
  | 0x2B08 => .group43Var8
  | 0x3201 => .group50Var1
  | 0x3204 => .group50Var4
  | 0x3301 => .group51Var1
  | 0x3302 => .group51Var2
  | 0x3401 => .group52Var1
  | 0x3402 => .group52Var2
  | 0x3C01 => .group60Var1
  | 0x3C02 => .group60Var2
  | 0x3C03 => .group60Var3
  | 0x3C04 => .group60Var4
  | 0x4601 => .group70Var1
  | 0x4602 => .group70Var2
  | 0x4603 => .group70Var3
  | 0x4604 => .group70Var4
  | 0x4605 => .group70Var5
  | 0x4606 => .group70Var6
  | 0x4607 => .group70Var7
  | 0x4608 => .group70Var8
  | 0x5001 => .group80Var1
  | 0x6E00 => .group110Var0
  | 0x6F00 => .group111Var0
  | 0x7000 => .group112Var0
  | 0x7100 => .group113Var0
  | 0x7801 => .group120Var1
  | 0x7802 => .group120Var2
  | 0x7803 => .group120Var3
  | 0x7804 => .group120Var4
  | 0x7805 => .group120Var5
  | 0x7806 => .group120Var6
  | 0x7807 => .group120Var7
  | 0x7808 => .group120Var8
  | 0x7809 => .group120Var9
  | 0x780A => .group120Var10
  | 0x780B => .group120Var11
  | 0x780C => .group120Var12
  | 0x780D => .group120Var13
  | 0x780E => .group120Var14
  | 0x780F => .group120Var15
  | 0x7900 => .group121Var0
  | 0x7901 => .group121Var1
  | 0x7A00 => .group122Var0
  | 0x7A01 => .group122Var1
  | 0x7A02 => .group122Var2
  | _ => .unknown

/-- The kind of object a group variation is. -/
inductive GroupVariationType where
  | static
  | event
  | other
  deriving DecidableEq, Repr

/-- A group variation with what is known about it. -/
structure GroupVariationRecord where
  enumeration : GroupVariation
  type : GroupVariationType
  group : UInt8
  variation : UInt8
  deriving DecidableEq, Repr

namespace GroupVariationRecord

/-- Group and variation in one number. -/
def getGroupVar (group variation : UInt8) : UInt16 :=
  (group.toUInt16 <<< 8) ||| variation.toUInt16

/-- What kind of data the group holds. -/
def getType (group variation : UInt8) : GroupVariationType :=
  match group.toNat with
  | 1 | 3 | 10 | 20 | 21 | 30 | 40 => .static
  | 2 | 4 | 11 | 13 | 22 | 23 | 32 | 41 | 42 | 43 => .event
  | 50 => if variation = 4 then .static else .other
  | 60 => if variation = 1 then .static else .event
  | 110 => .static
  | 111 => .event
  | 121 => .static
  | 122 => .event
  | _ => .other

/-- The group and variation that the code knows; some groups have any variation. -/
def getEnum (group variation : UInt8) : GroupVariation :=
  let enumeration := GroupVariation.fromType (getGroupVar group variation)
  if enumeration = .unknown then
    match group.toNat with
    | 110 => .group110Var0
    | 111 => .group111Var0
    | 112 => .group112Var0
    | 113 => .group113Var0
    | _ => .unknown
  else enumeration

/-- What is known of a group and variation. -/
def getRecord (group variation : UInt8) : GroupVariationRecord where
  enumeration := getEnum group variation
  type := getType group variation
  group := group
  variation := variation

end GroupVariationRecord

/-- The variations with a timestamp. -/
def typeHasTimestamp : GroupVariation → Bool
  | .group2Var2 | .group2Var3
  | .group4Var2 | .group4Var3
  | .group11Var2
  | .group13Var2
  -- group 21 (frozen counters) is the only static type with a timestamp
  | .group21Var5 | .group21Var6
  | .group22Var5 | .group22Var6
  | .group23Var5 | .group23Var6
  | .group32Var3 | .group32Var4 | .group32Var7 | .group32Var8
  | .group42Var3 | .group42Var4 | .group42Var7 | .group42Var8
  | .group43Var3 | .group43Var4 | .group43Var7 | .group43Var8
  | .group122Var2 => true
  | _ => false

/-- Object header range and prefix as a single enumeration. -/
inductive QualifierCode where
  | uint8StartStop
  | uint16StartStop
  | allObjects
  | uint8Cnt
  | uint16Cnt
  | uint8CntUint8Index
  | uint16CntUint16Index
  | uint16FreeFormat
  | undefined
  deriving DecidableEq, Repr

namespace QualifierCode

/-- The code that a qualifier is transmitted as. -/
def toType : QualifierCode → UInt8
  | .uint8StartStop => 0x00
  | .uint16StartStop => 0x01
  | .allObjects => 0x06
  | .uint8Cnt => 0x07
  | .uint16Cnt => 0x08
  | .uint8CntUint8Index => 0x17
  | .uint16CntUint16Index => 0x28
  | .uint16FreeFormat => 0x5B
  | .undefined => 0xFF

/-- The qualifier with a code; all other codes are undefined. -/
def fromType (arg : UInt8) : QualifierCode :=
  match arg.toNat with
  | 0x00 => .uint8StartStop
  | 0x01 => .uint16StartStop
  | 0x06 => .allObjects
  | 0x07 => .uint8Cnt
  | 0x08 => .uint16Cnt
  | 0x17 => .uint8CntUint8Index
  | 0x28 => .uint16CntUint16Index
  | 0x5B => .uint16FreeFormat
  | _ => .undefined

@[simp] theorem fromType_toType (qc : QualifierCode) : fromType qc.toType = qc := by
  cases qc <;> rfl

end QualifierCode

/-- A header as the handlers see it. -/
structure HeaderRecord extends GroupVariationRecord where
  qualifier : UInt8
  headerIndex : Nat
  deriving DecidableEq, Repr

/-- The qualifier of a header. -/
def HeaderRecord.getQualifierCode (h : HeaderRecord) : QualifierCode := .fromType h.qualifier

end App
end Dnp3
