import Mathlib.Data.UInt

/-!
# Internal indications

The two bytes of internal indications of a response, and the bits in them.

`IINBit` is the enumeration of the source, and `IINBit.masks` gives the two bytes in which a bit is
set: the bits of the first byte speak of the outstation (a broadcast was received, there are events
of a class, the time is needed, the device was restarted), most of those of the second of the
request that is being answered.  A field is built up with `setBit` and `or`, and a handler that
rejects something says so with a bit of the second byte, which `hasRequestError` asks for.
-/

namespace Dnp3
namespace App

/-- What a bit of the internal indications says. -/
inductive IINBit where
  | allStations
  | class1Events
  | class2Events
  | class3Events
  | needTime
  | localControl
  | deviceTrouble
  | deviceRestart
  | funcNotSupported
  | objectUnknown
  | paramError
  | eventBufferOverflow
  | alreadyExecuting
  | configCorrupt
  | reserved1
  | reserved2
  deriving DecidableEq, Repr

/-- The masks of a bit in the two bytes; one of them is zero. -/
def IINBit.masks : IINBit → UInt8 × UInt8
  | allStations => (0x01, 0)
  | class1Events => (0x02, 0)
  | class2Events => (0x04, 0)
  | class3Events => (0x08, 0)
  | needTime => (0x10, 0)
  | localControl => (0x20, 0)
  | deviceTrouble => (0x40, 0)
  | deviceRestart => (0x80, 0)
  | funcNotSupported => (0, 0x01)
  | objectUnknown => (0, 0x02)
  | paramError => (0, 0x04)
  | eventBufferOverflow => (0, 0x08)
  | alreadyExecuting => (0, 0x10)
  | configCorrupt => (0, 0x20)
  | reserved1 => (0, 0x40)
  | reserved2 => (0, 0x80)

/-- The internal indications of a response. -/
structure IINField where
  LSB : UInt8
  MSB : UInt8
  deriving DecidableEq, Repr

namespace IINField

/-- No indication. -/
def empty : IINField := { LSB := 0, MSB := 0 }

/-- One indication alone. -/
def ofBit (bit : IINBit) : IINField := { LSB := bit.masks.1, MSB := bit.masks.2 }

/-- `operator|`. -/
def or (f other : IINField) : IINField := { LSB := f.LSB ||| other.LSB, MSB := f.MSB ||| other.MSB }

/-- The indication is among those of the field. -/
def isSet (f : IINField) (bit : IINBit) : Bool :=
  f.LSB &&& bit.masks.1 != 0 || f.MSB &&& bit.masks.2 != 0

/-- The indication is added. -/
def setBit (f : IINField) (bit : IINBit) : IINField := f.or (ofBit bit)

/-- The indication is taken away. -/
def clearBit (f : IINField) (bit : IINBit) : IINField where
  LSB := f.LSB &&& ~~~bit.masks.1
  MSB := f.MSB &&& ~~~bit.masks.2

/-- The indication is added or taken away. -/
def setBitToValue (f : IINField) (bit : IINBit) (value : Bool) : IINField :=
  if value then f.setBit bit else f.clearBit bit

/-- There is an indication. -/
def any (f : IINField) : Bool := f.LSB ||| f.MSB != 0

/-- A bit for an error in the request is set. -/
def hasRequestError (f : IINField) : Bool := f.MSB &&& (0x01 ||| 0x02 ||| 0x04) != 0

end IINField
end App
end Dnp3
