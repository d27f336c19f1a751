import Dnp3.App.GroupVariation
import Dnp3.App.Measurements

/-!
# Objects and their serializers

Every group variation that carries measurements or commands has a serializer: the layout of its
fields and a pair of conversions between the fields and the value.  Writing may lose information (a
variation without flags, without time, or with a narrower value), reading never fails on a buffer of
the right size.  The conversion templates are those of the source; each serializer is their
instance under the name of its group and variation.

A serializer is named after its group and variation, `groupXVarY`, and is given in one line: its
size and layout, the conversion it is written by, and the factory it is read by.  What a value
becomes on the way is `DNP3Serializer.image`, the value as its variation transmits it; the round
trips of `App.RoundTrip` are stated with it.  A count is truncated to its low bits by the narrower
variations.  An analog value is clamped to what its variation can hold, and where the variation has
flags it is flagged as well.
-/

namespace Dnp3
namespace App

open Library

/-! ## Index and count types

The start and the stop of a range, counts and the indices in front of objects are unsigned numbers
of one or two bytes.  A larger number is truncated when it is written, and the counters of the
header writer, which are of these types as well, go around.
-/

/-- The unsigned types of counts, indices and range limits. -/
inductive IndexType where
  | uint8
  | uint16
  deriving DecidableEq, Repr

namespace IndexType

/-- The bytes of a value. -/
def SIZE : IndexType → Nat
  | .uint8 => 1
  | .uint16 => 2

/-- The number of values of the type. -/
def modulus (t : IndexType) : Nat := 256 ^ t.SIZE

/-- The bytes of a value; a larger number is truncated to the type. -/
def bytes (t : IndexType) (n : Nat) : List UInt8 := leBytes t.SIZE n

/-- The value whose bytes are in front. -/
def value (t : IndexType) (buffer : List UInt8) : Nat := leNat (buffer.take t.SIZE)

@[simp] theorem length_bytes (t : IndexType) (n : Nat) : (t.bytes n).length = t.SIZE :=
  length_leBytes t.SIZE n

/-- A value of the type comes back. -/
theorem value_bytes_append (t : IndexType) {n : Nat} (h : n < t.modulus) (z : List UInt8) :
    t.value (t.bytes n ++ z) = n := by
  rw [value, bytes, List.take_left' (length_leBytes t.SIZE n), leNat_leBytes]
  exact Nat.mod_eq_of_lt h

end IndexType

/-! ## Field codecs -/

/-- 48-bit times; a larger time is written as the largest. -/
def dnpTime : Codec DNPTime :=
  (Codec.le 6).map UInt64.ofNat fun t => min t.toNat (2 ^ 48 - 1)

/-- `SingleFloat`: the four bytes of the bit pattern, the low byte first. -/
def single : Codec Single := Codec.uint32.map Single.mk Single.bits

/-- `DoubleFloat`: the eight bytes of the bit pattern, the low byte first. -/
def double : Codec Double := Codec.uint64.map Double.mk Double.bits

theorem lossless_single : single.Lossless := Codec.lossless_uint32.map fun _ => rfl

theorem lossless_double : double.Lossless := Codec.lossless_uint64.map fun _ => rfl

/-- A time comes back as itself, or as the largest time that can be transmitted. -/
theorem image_dnpTime (t : DNPTime) :
    dnpTime.image t = UInt64.ofNat (min t.toNat (2 ^ 48 - 1)) := by
  have hlt : min t.toNat (2 ^ 48 - 1) < 256 ^ 6 := by omega
  rw [dnpTime, Codec.image_map, Codec.image_le, Nat.mod_eq_of_lt hlt]

/-! ## Serializers -/

/-- The identity of an object and the codec of its values. -/
structure DNP3Serializer (T : Type) where
  id : GroupVariationID
  codec : Codec T

namespace DNP3Serializer

variable {T : Type}

/-- The bytes of an object. -/
def size (s : DNP3Serializer T) : Nat := s.codec.size

/-- The bytes that a value is written as. -/
def write (s : DNP3Serializer T) (value : T) : List UInt8 := s.codec.write value

/-- The value that is read from a buffer of the right size. -/
def read (s : DNP3Serializer T) (buffer : List UInt8) : T := s.codec.read buffer

/-- The value as its variation transmits it. -/
def image (s : DNP3Serializer T) (value : T) : T := s.codec.image value

end DNP3Serializer

/-! ## Write conversions

A conversion takes a measurement to the fields of its variation.  Those with `RangeCheck` in their
name convert an analog value to a narrower type: what is out of range is clamped to the nearest
bound, and `OVERRANGE` is set in the flags when there are any.  In a variation without flags, and in
the command events of group 43, nothing tells that a value was clamped.
-/

section Convert

variable {T S : Type}

/-- `ConvertQ`: the flags, which hold the value of a binary kind. -/
def convertQ (src : TypedMeasurement T) : UInt8 := src.quality

/-- `ConvertQV`: flags and value. -/
def convertQV (src : TypedMeasurement T) : UInt8 × T := (src.quality, src.value)

/-- `ConvertV`: the value alone. -/
def convertV (src : TypedMeasurement T) : T := src.value

/-- `ConvertVandTruncate`: the low 16 bits of a count. -/
def convertVandTruncate (src : TypedMeasurement UInt32) : UInt16 := src.value.toUInt16

/-- `ConvertQVandTruncate`: flags and the low 16 bits of a count. -/
def convertQVandTruncate (src : TypedMeasurement UInt32) : UInt8 × UInt16 :=
  (src.quality, src.value.toUInt16)

/-- `ConvertQVT`: flags, value and time. -/
def convertQVT (src : TypedMeasurement T) : UInt8 × T × DNPTime :=
  (src.quality, src.value, src.time)

/-- `ConvertQVTandTruncate`: flags, the low 16 bits of a count, and time. -/
def convertQVTandTruncate (src : TypedMeasurement UInt32) : UInt8 × UInt16 × DNPTime :=
  (src.quality, src.value.toUInt16, src.time)

/-- `ConvertQT`: flags and time. -/
def convertQT (src : TypedMeasurement T) : UInt8 × DNPTime := (src.quality, src.time)

/-- `ConvertQTDowncast`: flags and the low 16 bits of the time. -/
def convertQTDowncast (src : TypedMeasurement T) : UInt8 × UInt16 :=
  (src.quality, src.time.toUInt16)

/-- A conversion to a narrower type that says whether the value was out of its range. -/
abbrev DownSampling (S : Type) := Double → S × Bool

/-- Clamp to the bounds, or cast. -/
def downSample (max min : Double) (maxValue minValue : S) (cast : Double → S) : DownSampling S :=
  fun src =>
    if max.lt src then (maxValue, true)
    else if src.lt min then (minValue, true)
    else (cast src, false)

/-- To a 32-bit integer, truncated towards zero. -/
def downSampleInt32 : DownSampling Int32 :=
  downSample (.ofInt (2 ^ 31 - 1)) (.ofInt (-2 ^ 31)) Int32.maxValue Int32.minValue
    fun src => Int32.ofInt src.toInt

/-- To a 16-bit integer, truncated towards zero. -/
def downSampleInt16 : DownSampling Int16 :=
  downSample (.ofInt (2 ^ 15 - 1)) (.ofInt (-2 ^ 15)) Int16.maxValue Int16.minValue
    fun src => Int16.ofInt src.toInt

/-- `FLT_MAX` and its negation. -/
def singleMax : Single := ⟨0x7F7FFFFF⟩

/-- The least finite `float`. -/
def singleMin : Single := ⟨0xFF7FFFFF⟩

/-- To single precision, rounded; infinities are clamped as well. -/
def downSampleSingle : DownSampling Single :=
  downSample (.ofSingle singleMax) (.ofSingle singleMin) singleMax singleMin Double.toSingle

/-- The flag of an analog value that the variation cannot hold. -/
def OVERRANGE : UInt8 := 0x20

/-- The value alone; that it was clamped is lost. -/
def convertVRangeCheck (ds : DownSampling S) (src : TypedMeasurement Double) : S :=
  (ds src.value).1

/-- Flags and value; a value that was clamped is flagged. -/
def convertQVRangeCheck (ds : DownSampling S) (src : TypedMeasurement Double) : UInt8 × S :=
  ((if (ds src.value).2 then OVERRANGE else 0) ||| src.quality, (ds src.value).1)

/-- Flags, value and time; a value that was clamped is flagged. -/
def convertQVTRangeCheck (ds : DownSampling S) (src : TypedMeasurement Double) :
    UInt8 × S × DNPTime :=
  ((if (ds src.value).2 then OVERRANGE else 0) ||| src.quality, (ds src.value).1, src.time)

/-- Value and command status. -/
def convertQS (src : AnalogOutput T) : T × UInt8 := (src.value, src.status.toType)

/-- Command status and value; that it was clamped is lost. -/
def convertGroup43RangeCheck (ds : DownSampling S) (src : AnalogCommandEvent) : UInt8 × S :=
  (src.status.toType, (ds src.value).1)

/-- Command status, value and time; that the value was clamped is lost. -/
def convertGroup43WithTimeRangeCheck (ds : DownSampling S) (src : AnalogCommandEvent) :
    UInt8 × S × DNPTime :=
  (src.status.toType, (ds src.value).1, src.time)

end Convert

/-! ## Layouts -/

namespace Layout

open Codec

variable {S : Type}

/-- Flags and a value. -/
def qv (c : Codec S) : Codec (UInt8 × S) := uint8.prod c

/-- Flags and a time. -/
def qt : Codec (UInt8 × DNPTime) := uint8.prod dnpTime

/-- Flags, a value and a time. -/
def qvt (c : Codec S) : Codec (UInt8 × S × DNPTime) := uint8.prod (c.prod dnpTime)

/-- A value and a command status. -/
def vs (c : Codec S) : Codec (S × UInt8) := c.prod uint8

end Layout

/-! ## Factories

A factory makes a value of the fields that were read.  A variation without flags is read as a value
that is online, one without time as a value of time zero; statuses of commands that are not assigned
are read as undefined.
-/

section Factory

variable {S : Type}

/-- `DNPTime(time)` of a 16-bit relative time. -/
def relativeTime (time : UInt16) : DNPTime := time.toUInt64

/-- An analog input from what was read. -/
def analogFactory (flags : UInt8) (value : Double) (time : DNPTime) : Analog :=
  { value := value, quality := flags, time := time }

/-- A counter from what was read. -/
def counterFactory (flags : UInt8) (count : UInt32) (time : DNPTime) : Counter :=
  { value := count, quality := flags, time := time }

/-- A frozen counter from what was read. -/
def frozenCounterFactory (flags : UInt8) (count : UInt32) (time : DNPTime) : FrozenCounter :=
  { value := count, quality := flags, time := time }

/-- The status of an analog output from what was read. -/
def analogOutputStatusFactory (flags : UInt8) (value : Double) (time : DNPTime) :
    AnalogOutputStatus :=
  { value := value, quality := flags, time := time }

/-- The event of an analog command from what was read; unknown statuses are undefined. -/
def analogCommandEventFactory (status : UInt8) (value : Double) (time : DNPTime) :
    AnalogCommandEvent :=
  { value := value, status := .fromType status, time := time }

/-- An analog command from what was read; unknown statuses are undefined. -/
def analogOutputFactory (value : S) (status : UInt8) : AnalogOutput S :=
  { value := value, status := .fromType status }

/-- A security statistic from what was read. -/
def securityStatFactory (flags : UInt8) (assocId : UInt16) (count : UInt32) (time : DNPTime) :
    SecurityStat :=
  { quality := flags, value := ⟨assocId, count⟩, time := time }

/-- `double` from the narrower value types. -/
def ofInt32 (v : Int32) : Double := .ofInt v.toInt

/-- `double` from a 16-bit integer, which it holds exactly. -/
def ofInt16 (v : Int16) : Double := .ofInt v.toInt

end Factory

open Codec Layout

/-! ## Binary inputs -/

/-- Binary input, with flags. -/
def group1Var2 : DNP3Serializer Binary :=
  ⟨⟨1, 2⟩, uint8.map (fun flags => Binary.ofQuality flags 0) (convertQ ·.toTypedMeasurement)⟩

/-- Binary input event, without time. -/
def group2Var1 : DNP3Serializer Binary :=
  ⟨⟨2, 1⟩, uint8.map (fun flags => Binary.ofQuality flags 0) (convertQ ·.toTypedMeasurement)⟩

/-- Binary input event, with absolute time. -/
def group2Var2 : DNP3Serializer Binary :=
  ⟨⟨2, 2⟩, qt.map (fun r => Binary.ofQuality r.1 r.2) (convertQT ·.toTypedMeasurement)⟩

/-- Binary input event, with relative time, of which the low 16 bits are written. -/
def group2Var3 : DNP3Serializer Binary :=
  ⟨⟨2, 3⟩, (qv uint16).map (fun r => Binary.ofQuality r.1 (relativeTime r.2))
    (convertQTDowncast ·.toTypedMeasurement)⟩

/-! ## Double-bit inputs -/

/-- Double-bit binary input, with flags. -/
def group3Var2 : DNP3Serializer DoubleBitBinary :=
  ⟨⟨3, 2⟩, uint8.map (fun flags => DoubleBitBinary.ofQuality flags 0)
    (convertQ ·.toTypedMeasurement)⟩

/-- Double-bit binary input event, without time. -/
def group4Var1 : DNP3Serializer DoubleBitBinary :=
  ⟨⟨4, 1⟩, uint8.map (fun flags => DoubleBitBinary.ofQuality flags 0)
    (convertQ ·.toTypedMeasurement)⟩

/-- Double-bit binary input event, with absolute time. -/
def group4Var2 : DNP3Serializer DoubleBitBinary :=
  ⟨⟨4, 2⟩, qt.map (fun r => DoubleBitBinary.ofQuality r.1 r.2) (convertQT ·.toTypedMeasurement)⟩

/-- Double-bit binary input event, with relative time, of which the low 16 bits are written. -/
def group4Var3 : DNP3Serializer DoubleBitBinary :=
  ⟨⟨4, 3⟩, (qv uint16).map (fun r => DoubleBitBinary.ofQuality r.1 (relativeTime r.2))
    (convertQTDowncast ·.toTypedMeasurement)⟩

/-! ## Binary outputs -/

/-- Binary output, output status with flags. -/
def group10Var2 : DNP3Serializer BinaryOutputStatus :=
  ⟨⟨10, 2⟩, uint8.map (fun flags => BinaryOutputStatus.ofQuality flags 0)
    (convertQ ·.toTypedMeasurement)⟩

/-- Binary output event, output status without time. -/
def group11Var1 : DNP3Serializer BinaryOutputStatus :=
  ⟨⟨11, 1⟩, uint8.map (fun flags => BinaryOutputStatus.ofQuality flags 0)
    (convertQ ·.toTypedMeasurement)⟩

/-- Binary output event, output status with time. -/
def group11Var2 : DNP3Serializer BinaryOutputStatus :=
  ⟨⟨11, 2⟩, qt.map (fun r => BinaryOutputStatus.ofQuality r.1 r.2) (convertQT ·.toTypedMeasurement)⟩

/-- Binary command, CROB. -/
def group12Var1 : DNP3Serializer ControlRelayOutputBlock :=
  ⟨⟨12, 1⟩, (uint8.prod (uint8.prod (uint32.prod (uint32.prod uint8)))).map
    (fun r => ⟨r.1, r.2.1, r.2.2.1, r.2.2.2.1, .fromType r.2.2.2.2⟩)
    fun crob => (crob.rawCode, crob.count, crob.onTimeMS, crob.offTimeMS, crob.status.toType)⟩

/-- Binary command event, without time. -/
def group13Var1 : DNP3Serializer BinaryCommandEvent :=
  ⟨⟨13, 1⟩, uint8.map (BinaryCommandEvent.ofFlags · 0) BinaryCommandEvent.getFlags⟩

/-- Binary command event, with time. -/
def group13Var2 : DNP3Serializer BinaryCommandEvent :=
  ⟨⟨13, 2⟩, qt.map (fun r => BinaryCommandEvent.ofFlags r.1 r.2) fun ev => (ev.getFlags, ev.time)⟩

/-! ## Counters -/

/-- Counter, 32-bit with flag. -/
def group20Var1 : DNP3Serializer Counter :=
  ⟨⟨20, 1⟩, (qv uint32).map (fun r => counterFactory r.1 r.2 0) (convertQV ·.toTypedMeasurement)⟩

/-- Counter, 16-bit with flag; the count is truncated. -/
def group20Var2 : DNP3Serializer Counter :=
  ⟨⟨20, 2⟩, (qv uint16).map (fun r => counterFactory r.1 r.2.toUInt32 0)
    (convertQVandTruncate ·.toTypedMeasurement)⟩

/-- Counter, 32-bit without flag; what is read is online. -/
def group20Var5 : DNP3Serializer Counter :=
  ⟨⟨20, 5⟩, uint32.map (fun v => counterFactory Flags.ONLINE v 0) (convertV ·.toTypedMeasurement)⟩

/-- Counter, 16-bit without flag, truncated; what is read is online. -/
def group20Var6 : DNP3Serializer Counter :=
  ⟨⟨20, 6⟩, uint16.map (fun v => counterFactory Flags.ONLINE v.toUInt32 0)
    (convertVandTruncate ·.toTypedMeasurement)⟩

/-- Frozen counter, 32-bit with flag. -/
def group21Var1 : DNP3Serializer FrozenCounter :=
  ⟨⟨21, 1⟩, (qv uint32).map (fun r => frozenCounterFactory r.1 r.2 0)
    (convertQV ·.toTypedMeasurement)⟩

/-- Frozen counter, 16-bit with flag; the count is truncated. -/
def group21Var2 : DNP3Serializer FrozenCounter :=
  ⟨⟨21, 2⟩, (qv uint16).map (fun r => frozenCounterFactory r.1 r.2.toUInt32 0)
    (convertQVandTruncate ·.toTypedMeasurement)⟩

/-- Frozen counter, 32-bit with flag and time. -/
def group21Var5 : DNP3Serializer FrozenCounter :=
  ⟨⟨21, 5⟩, (qvt uint32).map (fun r => frozenCounterFactory r.1 r.2.1 r.2.2)
    (convertQVT ·.toTypedMeasurement)⟩

/-- Frozen counter, 16-bit with flag and time; the count is truncated. -/
def group21Var6 : DNP3Serializer FrozenCounter :=
  ⟨⟨21, 6⟩, (qvt uint16).map (fun r => frozenCounterFactory r.1 r.2.1.toUInt32 r.2.2)
    (convertQVTandTruncate ·.toTypedMeasurement)⟩

/-- Frozen counter, 32-bit without flag; what is read is online. -/
def group21Var9 : DNP3Serializer FrozenCounter :=
  ⟨⟨21, 9⟩, uint32.map (fun v => frozenCounterFactory Flags.ONLINE v 0)
    (convertV ·.toTypedMeasurement)⟩

/-- Frozen counter, 16-bit without flag, truncated; what is read is online. -/
def group21Var10 : DNP3Serializer FrozenCounter :=
  ⟨⟨21, 10⟩, uint16.map (fun v => frozenCounterFactory Flags.ONLINE v.toUInt32 0)
    (convertVandTruncate ·.toTypedMeasurement)⟩

/-- Counter event, 32-bit with flag. -/
def group22Var1 : DNP3Serializer Counter :=
  ⟨⟨22, 1⟩, (qv uint32).map (fun r => counterFactory r.1 r.2 0) (convertQV ·.toTypedMeasurement)⟩

/-- Counter event, 16-bit with flag; the count is truncated. -/
def group22Var2 : DNP3Serializer Counter :=
  ⟨⟨22, 2⟩, (qv uint16).map (fun r => counterFactory r.1 r.2.toUInt32 0)
    (convertQVandTruncate ·.toTypedMeasurement)⟩

/-- Counter event, 32-bit with flag and time. -/
def group22Var5 : DNP3Serializer Counter :=
  ⟨⟨22, 5⟩, (qvt uint32).map (fun r => counterFactory r.1 r.2.1 r.2.2)
    (convertQVT ·.toTypedMeasurement)⟩

/-- Counter event, 16-bit with flag and time; the count is truncated. -/
def group22Var6 : DNP3Serializer Counter :=
  ⟨⟨22, 6⟩, (qvt uint16).map (fun r => counterFactory r.1 r.2.1.toUInt32 r.2.2)
    (convertQVTandTruncate ·.toTypedMeasurement)⟩

/-- Frozen counter event, 32-bit with flag. -/
def group23Var1 : DNP3Serializer FrozenCounter :=
  ⟨⟨23, 1⟩, (qv uint32).map (fun r => frozenCounterFactory r.1 r.2 0)
    (convertQV ·.toTypedMeasurement)⟩

/-- Frozen counter event, 16-bit with flag; the count is truncated. -/
def group23Var2 : DNP3Serializer FrozenCounter :=
  ⟨⟨23, 2⟩, (qv uint16).map (fun r => frozenCounterFactory r.1 r.2.toUInt32 0)
    (convertQVandTruncate ·.toTypedMeasurement)⟩

/-- Frozen counter event, 32-bit with flag and time. -/
def group23Var5 : DNP3Serializer FrozenCounter :=
  ⟨⟨23, 5⟩, (qvt uint32).map (fun r => frozenCounterFactory r.1 r.2.1 r.2.2)
    (convertQVT ·.toTypedMeasurement)⟩

/-- Frozen counter event, 16-bit with flag and time; the count is truncated. -/
def group23Var6 : DNP3Serializer FrozenCounter :=
  ⟨⟨23, 6⟩, (qvt uint16).map (fun r => frozenCounterFactory r.1 r.2.1.toUInt32 r.2.2)
    (convertQVTandTruncate ·.toTypedMeasurement)⟩

/-! ## Analog inputs -/

/-- Analog input, 32-bit with flag. -/
def group30Var1 : DNP3Serializer Analog :=
  ⟨⟨30, 1⟩, (qv int32).map (fun r => analogFactory r.1 (ofInt32 r.2) 0)
    (convertQVRangeCheck downSampleInt32 ·.toTypedMeasurement)⟩

/-- Analog input, 16-bit with flag. -/
def group30Var2 : DNP3Serializer Analog :=
  ⟨⟨30, 2⟩, (qv int16).map (fun r => analogFactory r.1 (ofInt16 r.2) 0)
    (convertQVRangeCheck downSampleInt16 ·.toTypedMeasurement)⟩

/-- Analog input, 32-bit without flag; what is read is online. -/
def group30Var3 : DNP3Serializer Analog :=
  ⟨⟨30, 3⟩, int32.map (fun v => analogFactory Flags.ONLINE (ofInt32 v) 0)
    (convertVRangeCheck downSampleInt32 ·.toTypedMeasurement)⟩

/-- Analog input, 16-bit without flag; what is read is online. -/
def group30Var4 : DNP3Serializer Analog :=
  ⟨⟨30, 4⟩, int16.map (fun v => analogFactory Flags.ONLINE (ofInt16 v) 0)
    (convertVRangeCheck downSampleInt16 ·.toTypedMeasurement)⟩

/-- Analog input, single precision with flag. -/
def group30Var5 : DNP3Serializer Analog :=
  ⟨⟨30, 5⟩, (qv single).map (fun r => analogFactory r.1 (Double.ofSingle r.2) 0)
    (convertQVRangeCheck downSampleSingle ·.toTypedMeasurement)⟩

/-- Analog input, double precision with flag. -/
def group30Var6 : DNP3Serializer Analog :=
  ⟨⟨30, 6⟩, (qv double).map (fun r => analogFactory r.1 r.2 0) (convertQV ·.toTypedMeasurement)⟩

/-- Analog input event, 32-bit with flag. -/
def group32Var1 : DNP3Serializer Analog :=
  ⟨⟨32, 1⟩, (qv int32).map (fun r => analogFactory r.1 (ofInt32 r.2) 0)
    (convertQVRangeCheck downSampleInt32 ·.toTypedMeasurement)⟩

/-- Analog input event, 16-bit with flag. -/
def group32Var2 : DNP3Serializer Analog :=
  ⟨⟨32, 2⟩, (qv int16).map (fun r => analogFactory r.1 (ofInt16 r.2) 0)
    (convertQVRangeCheck downSampleInt16 ·.toTypedMeasurement)⟩

/-- Analog input event, 32-bit with flag and time. -/
def group32Var3 : DNP3Serializer Analog :=
  ⟨⟨32, 3⟩, (qvt int32).map (fun r => analogFactory r.1 (ofInt32 r.2.1) r.2.2)
    (convertQVTRangeCheck downSampleInt32 ·.toTypedMeasurement)⟩

/-- Analog input event, 16-bit with flag and time. -/
def group32Var4 : DNP3Serializer Analog :=
  ⟨⟨32, 4⟩, (qvt int16).map (fun r => analogFactory r.1 (ofInt16 r.2.1) r.2.2)
    (convertQVTRangeCheck downSampleInt16 ·.toTypedMeasurement)⟩

/-- Analog input event, single precision with flag. -/
def group32Var5 : DNP3Serializer Analog :=
  ⟨⟨32, 5⟩, (qv single).map (fun r => analogFactory r.1 (Double.ofSingle r.2) 0)
    (convertQVRangeCheck downSampleSingle ·.toTypedMeasurement)⟩

/-- Analog input event, double precision with flag. -/
def group32Var6 : DNP3Serializer Analog :=
  ⟨⟨32, 6⟩, (qv double).map (fun r => analogFactory r.1 r.2 0) (convertQV ·.toTypedMeasurement)⟩

/-- Analog input event, single precision with flag and time. -/
def group32Var7 : DNP3Serializer Analog :=
  ⟨⟨32, 7⟩, (qvt single).map (fun r => analogFactory r.1 (Double.ofSingle r.2.1) r.2.2)
    (convertQVTRangeCheck downSampleSingle ·.toTypedMeasurement)⟩

/-- Analog input event, double precision with flag and time. -/
def group32Var8 : DNP3Serializer Analog :=
  ⟨⟨32, 8⟩, (qvt double).map (fun r => analogFactory r.1 r.2.1 r.2.2)
    (convertQVT ·.toTypedMeasurement)⟩

/-! ## Analog outputs -/

/-- Analog output status, 32-bit with flag. -/
def group40Var1 : DNP3Serializer AnalogOutputStatus :=
  ⟨⟨40, 1⟩, (qv int32).map (fun r => analogOutputStatusFactory r.1 (ofInt32 r.2) 0)
    (convertQVRangeCheck downSampleInt32 ·.toTypedMeasurement)⟩

/-- Analog output status, 16-bit with flag. -/
def group40Var2 : DNP3Serializer AnalogOutputStatus :=
  ⟨⟨40, 2⟩, (qv int16).map (fun r => analogOutputStatusFactory r.1 (ofInt16 r.2) 0)
    (convertQVRangeCheck downSampleInt16 ·.toTypedMeasurement)⟩

/-- Analog output status, single precision with flag. -/
def group40Var3 : DNP3Serializer AnalogOutputStatus :=
  ⟨⟨40, 3⟩, (qv single).map (fun r => analogOutputStatusFactory r.1 (Double.ofSingle r.2) 0)
    (convertQVRangeCheck downSampleSingle ·.toTypedMeasurement)⟩

/-- Analog output status, double precision with flag. -/
def group40Var4 : DNP3Serializer AnalogOutputStatus :=
  ⟨⟨40, 4⟩, (qv double).map (fun r => analogOutputStatusFactory r.1 r.2 0)
    (convertQV ·.toTypedMeasurement)⟩

/-- Analog output, 32-bit with flag. -/
def group41Var1 : DNP3Serializer AnalogOutputInt32 :=
  ⟨⟨41, 1⟩, (vs int32).map (fun r => analogOutputFactory r.1 r.2) convertQS⟩

/-- Analog output, 16-bit with flag. -/
def group41Var2 : DNP3Serializer AnalogOutputInt16 :=
  ⟨⟨41, 2⟩, (vs int16).map (fun r => analogOutputFactory r.1 r.2) convertQS⟩

/-- Analog output, single precision. -/
def group41Var3 : DNP3Serializer AnalogOutputFloat32 :=
  ⟨⟨41, 3⟩, (vs single).map (fun r => analogOutputFactory r.1 r.2) convertQS⟩

/-- Analog output, double precision. -/
def group41Var4 : DNP3Serializer AnalogOutputDouble64 :=
  ⟨⟨41, 4⟩, (vs double).map (fun r => analogOutputFactory r.1 r.2) convertQS⟩

/-- Analog output event, 32-bit with flag. -/
def group42Var1 : DNP3Serializer AnalogOutputStatus :=
  ⟨⟨42, 1⟩, (qv int32).map (fun r => analogOutputStatusFactory r.1 (ofInt32 r.2) 0)
    (convertQVRangeCheck downSampleInt32 ·.toTypedMeasurement)⟩

/-- Analog output event, 16-bit with flag. -/
def group42Var2 : DNP3Serializer AnalogOutputStatus :=
  ⟨⟨42, 2⟩, (qv int16).map (fun r => analogOutputStatusFactory r.1 (ofInt16 r.2) 0)
    (convertQVRangeCheck downSampleInt16 ·.toTypedMeasurement)⟩

/-- Analog output event, 32-bit with flag and time. -/
def group42Var3 : DNP3Serializer AnalogOutputStatus :=
  ⟨⟨42, 3⟩, (qvt int32).map (fun r => analogOutputStatusFactory r.1 (ofInt32 r.2.1) r.2.2)
    (convertQVTRangeCheck downSampleInt32 ·.toTypedMeasurement)⟩

/-- Analog output event, 16-bit with flag and time. -/
def group42Var4 : DNP3Serializer AnalogOutputStatus :=
  ⟨⟨42, 4⟩, (qvt int16).map (fun r => analogOutputStatusFactory r.1 (ofInt16 r.2.1) r.2.2)
    (convertQVTRangeCheck downSampleInt16 ·.toTypedMeasurement)⟩

/-- Analog output event, single precision with flag. -/
def group42Var5 : DNP3Serializer AnalogOutputStatus :=
  ⟨⟨42, 5⟩, (qv single).map (fun r => analogOutputStatusFactory r.1 (Double.ofSingle r.2) 0)
    (convertQVRangeCheck downSampleSingle ·.toTypedMeasurement)⟩

/-- Analog output event, double precision with flag. -/
def group42Var6 : DNP3Serializer AnalogOutputStatus :=
  ⟨⟨42, 6⟩, (qv double).map (fun r => analogOutputStatusFactory r.1 r.2 0)
    (convertQV ·.toTypedMeasurement)⟩

/-- Analog output event, single precision with flag and time. -/
def group42Var7 : DNP3Serializer AnalogOutputStatus :=
  ⟨⟨42, 7⟩, (qvt single).map (fun r => analogOutputStatusFactory r.1 (Double.ofSingle r.2.1) r.2.2)
    (convertQVTRangeCheck downSampleSingle ·.toTypedMeasurement)⟩

/-- Analog output event, double precision with flag and time. -/
def group42Var8 : DNP3Serializer AnalogOutputStatus :=
  ⟨⟨42, 8⟩, (qvt double).map (fun r => analogOutputStatusFactory r.1 r.2.1 r.2.2)
    (convertQVT ·.toTypedMeasurement)⟩

/-- Analog command event, 32-bit. -/
def group43Var1 : DNP3Serializer AnalogCommandEvent :=
  ⟨⟨43, 1⟩, (qv int32).map (fun r => analogCommandEventFactory r.1 (ofInt32 r.2) 0)
    (convertGroup43RangeCheck downSampleInt32)⟩

/-- Analog command event, 16-bit. -/
def group43Var2 : DNP3Serializer AnalogCommandEvent :=
  ⟨⟨43, 2⟩, (qv int16).map (fun r => analogCommandEventFactory r.1 (ofInt16 r.2) 0)
    (convertGroup43RangeCheck downSampleInt16)⟩

/-- Analog command event, 32-bit with time. -/
def group43Var3 : DNP3Serializer AnalogCommandEvent :=
  ⟨⟨43, 3⟩, (qvt int32).map (fun r => analogCommandEventFactory r.1 (ofInt32 r.2.1) r.2.2)
    (convertGroup43WithTimeRangeCheck downSampleInt32)⟩

/-- Analog command event, 16-bit with time. -/
def group43Var4 : DNP3Serializer AnalogCommandEvent :=
  ⟨⟨43, 4⟩, (qvt int16).map (fun r => analogCommandEventFactory r.1 (ofInt16 r.2.1) r.2.2)
    (convertGroup43WithTimeRangeCheck downSampleInt16)⟩

/-- Analog command event, single precision. -/
def group43Var5 : DNP3Serializer AnalogCommandEvent :=
  ⟨⟨43, 5⟩, (qv single).map (fun r => analogCommandEventFactory r.1 (Double.ofSingle r.2) 0)
    (convertGroup43RangeCheck downSampleSingle)⟩

/-- Analog command event, single precision with time. -/
def group43Var7 : DNP3Serializer AnalogCommandEvent :=
  ⟨⟨43, 7⟩, (qvt single).map (fun r => analogCommandEventFactory r.1 (Double.ofSingle r.2.1) r.2.2)
    (convertGroup43WithTimeRangeCheck downSampleSingle)⟩

/-- Analog command event, double precision. -/
def group43Var6 : DNP3Serializer AnalogCommandEvent :=
  ⟨⟨43, 6⟩, (qv double).map (fun r => analogCommandEventFactory r.1 r.2 0)
    fun src => (src.status.toType, src.value)⟩

/-- Analog command event, double precision with time. -/
def group43Var8 : DNP3Serializer AnalogCommandEvent :=
  ⟨⟨43, 8⟩, (qvt double).map (fun r => analogCommandEventFactory r.1 r.2.1 r.2.2)
    fun src => (src.status.toType, src.value, src.time)⟩

/-! ## Times -/

/-- Time and date, absolute time. -/
def group50Var1 : DNP3Serializer DNPTime := ⟨⟨50, 1⟩, dnpTime⟩

/-- Time and date, indexed absolute time and long interval. -/
def group50Var4 : DNP3Serializer TimeAndInterval :=
  ⟨⟨50, 4⟩, (dnpTime.prod (uint32.prod uint8)).map (fun r => ⟨r.1, r.2.1, r.2.2⟩)
    fun value => (value.time, value.interval, value.units)⟩

/-- Time and date CTO, absolute time, synchronized. -/
def group51Var1 : DNP3Serializer DNPTime := ⟨⟨51, 1⟩, dnpTime⟩

/-- Time and date CTO, absolute time, unsynchronized. -/
def group51Var2 : DNP3Serializer DNPTime := ⟨⟨51, 2⟩, dnpTime⟩

/-- Time delay, coarse. -/
def group52Var1 : DNP3Serializer UInt16 := ⟨⟨52, 1⟩, uint16⟩

/-- Time delay, fine. -/
def group52Var2 : DNP3Serializer UInt16 := ⟨⟨52, 2⟩, uint16⟩

/-! ## Security statistics -/

/-- Authentication, session key status request. -/
def group120Var4 : DNP3Serializer UInt16 := ⟨⟨120, 4⟩, uint16⟩

/-- Security statistic, 32-bit with flag. -/
def group121Var1 : DNP3Serializer SecurityStat :=
  ⟨⟨121, 1⟩, (uint8.prod (uint16.prod uint32)).map
    (fun r => securityStatFactory r.1 r.2.1 r.2.2 0)
    fun value => (value.quality, value.value.assocId, value.value.count)⟩

/-- Security statistic event, 32-bit with flag. -/
def group122Var1 : DNP3Serializer SecurityStat :=
  ⟨⟨122, 1⟩, (uint8.prod (uint16.prod uint32)).map
    (fun r => securityStatFactory r.1 r.2.1 r.2.2 0)
    fun value => (value.quality, value.value.assocId, value.value.count)⟩

/-- Security statistic event, 32-bit with flag and time. -/
def group122Var2 : DNP3Serializer SecurityStat :=
  ⟨⟨122, 2⟩, (uint8.prod (uint16.prod (uint32.prod dnpTime))).map
    (fun r => securityStatFactory r.1 r.2.1 r.2.2.1 r.2.2.2)
    fun value => (value.quality, value.value.assocId, value.value.count, value.time)⟩

end App
end Dnp3
