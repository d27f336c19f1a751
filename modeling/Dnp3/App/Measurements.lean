import Dnp3.Library.Codec
import Dnp3.Library.Ieee754

/-!
# Measurements and commands

The values an outstation reports and the commands it receives.  A measurement is a value with a
quality octet and a time; the binary kinds keep their value in the quality octet as well, and their
constructors keep the two in step.  Floating point values are bit patterns.

Everything is as the constructors of the source make it.  `Binary.ofQuality` and its relatives are
used for what was read from a fragment, where the value is in the flags; `ofValue` is used for what
an application reports.  The `isEvent` functions are those by which the database decides whether an
update is an event: the flags of a point have changed, or its value has left a deadband around the
value that was reported last.  On `double` values they are computed with the operations of
`Library.Ieee754`, where a NaN is equal to nothing, not even to itself.

Commands come with their status.  Control codes that are not in the enumeration are kept as raw
octets, so that an echo can be compared with what was sent, while `functionCode` says which of the
known codes an octet stands for.
-/

namespace Dnp3
namespace App

open Library

/-- A time in milliseconds; it is transmitted with 48 bits. -/
abbrev DNPTime := UInt64

/-- `double`. -/
structure Double where
  bits : UInt64
  deriving DecidableEq, Repr

/-- `float`. -/
structure Single where
  bits : UInt32
  deriving DecidableEq, Repr

/-- `x == y`. -/
def Single.eq (x y : Single) : Bool := binary32.eq x.bits.toNat y.bits.toNat

namespace Double

/-- The pattern whose bits are those of a number. -/
def ofNat (bits : Nat) : Double := ⟨UInt64.ofNat bits⟩

/-- The nearest `double`, exact for what fits the significand. -/
def ofInt (i : Int) : Double := .ofNat (binary64.ofInt i)

/-- `x < y`, false when one is a NaN. -/
def lt (x y : Double) : Bool := binary64.lt x.bits.toNat y.bits.toNat

/-- `x == y`, which makes the two zeros equal and no NaN equal to anything. -/
def eq (x y : Double) : Bool := binary64.eq x.bits.toNat y.bits.toNat

/-- `x - y`, rounded to nearest. -/
def sub (x y : Double) : Double := .ofNat (binary64.sub x.bits.toNat y.bits.toNat)

/-- `fabs`: the sign is cleared. -/
def abs (x : Double) : Double := .ofNat (binary64.abs x.bits.toNat)

/-- Positive infinity. -/
def infinity : Double := .ofNat (binary64.inf false)

/-- `static_cast<float>`, rounded to nearest. -/
def toSingle (x : Double) : Single := ⟨UInt32.ofNat (binary64.convert binary32 x.bits.toNat)⟩

/-- `static_cast<double>` of a `float`, which is exact. -/
def ofSingle (x : Single) : Double := .ofNat (binary32.convert binary64 x.bits.toNat)

/-- `static_cast` to an integer type whose range holds the truncated value.  The cast of a NaN is
undefined; here it is the value the processors give, the least 32-bit integer. -/
def toInt (x : Double) : Int :=
  if binary64.isNaN x.bits.toNat then -2 ^ 31 else (binary64.value x.bits.toNat).truncate

end Double

/-! ## Quality flags -/

namespace Flags

/-- The value comes from the field. -/
def ONLINE : UInt8 := 0x01

/-- The value has not been updated since the device started. -/
def RESTART : UInt8 := 0x02

/-- The value of a binary point, kept among its flags. -/
def STATE : UInt8 := 0x80

/-- The value that the flags hold. -/
def getBinaryValue (quality : UInt8) : Bool := quality &&& STATE != 0

/-- The flags with a value put in. -/
def getBinaryQuality (q : UInt8) (value : Bool) : UInt8 :=
  if value then q ||| STATE else q &&& ~~~STATE

end Flags

/-! ## Measurements -/

/-- A value with its quality and time. -/
structure TypedMeasurement (T : Type) where
  value : T
  quality : UInt8
  time : DNPTime
  deriving DecidableEq, Repr

/-- A binary input. -/
structure Binary extends TypedMeasurement Bool
  deriving DecidableEq, Repr

namespace Binary

/-- The point of a new database. -/
def initial : Binary := { value := false, quality := Flags.RESTART, time := 0 }

/-- An input that is online, with no time. -/
def ofValue (value : Bool) : Binary :=
  { value := value, quality := Flags.getBinaryQuality Flags.ONLINE value, time := 0 }

/-- What a variation with flags is read as: the value is taken from the flags. -/
def ofQuality (quality : UInt8) (time : DNPTime) : Binary :=
  { value := Flags.getBinaryValue quality, quality := quality, time := time }

/-- The value is online and no other flag is set. -/
def isQualityOnlineOnly (m : Binary) : Bool :=
  m.quality &&& Flags.ONLINE != 0 && m.quality &&& ~~~(Flags.ONLINE ||| Flags.STATE) == 0

/-- The flags differ, and with them the value. -/
def isEvent (old new : Binary) : Bool := old.quality != new.quality

end Binary

/-- The states of a double-bit point. -/
inductive DoubleBit where
  | intermediate
  | determinedOff
  | determinedOn
  | indeterminate
  deriving DecidableEq, Repr

namespace DoubleBit

/-- The number of a state, as it stands in the flags. -/
def toType : DoubleBit → UInt8
  | .intermediate => 0
  | .determinedOff => 1
  | .determinedOn => 2
  | .indeterminate => 3

/-- The state with a number. -/
def fromType (arg : UInt8) : DoubleBit :=
  match arg.toNat with
  | 0 => .intermediate
  | 1 => .determinedOff
  | 2 => .determinedOn
  | _ => .indeterminate

end DoubleBit

/-- A double-bit binary input. -/
structure DoubleBitBinary extends TypedMeasurement DoubleBit
  deriving DecidableEq, Repr

namespace DoubleBitBinary

/-- The point of a new database. -/
def initial : DoubleBitBinary := { value := .indeterminate, quality := Flags.RESTART, time := 0 }

/-- The value is the upper two bits of the quality. -/
def getValue (quality : UInt8) : DoubleBit := .fromType (quality >>> 6)

/-- The flags with a state put in their upper two bits. -/
def getQual (quality : UInt8) (state : DoubleBit) : UInt8 :=
  ((0x3F : UInt8) &&& quality) ||| (state.toType <<< 6)

/-- An input that is online, with no time. -/
def ofValue (value : DoubleBit) : DoubleBitBinary :=
  { value := value, quality := getQual Flags.ONLINE value, time := 0 }

/-- What a variation with flags is read as: the state is taken from the flags. -/
def ofQuality (quality : UInt8) (time : DNPTime) : DoubleBitBinary :=
  { value := getValue quality, quality := quality, time := time }

/-- The flags differ, and with them the state. -/
def isEvent (old new : DoubleBitBinary) : Bool := old.quality != new.quality

end DoubleBitBinary

/-- The status of a binary output. -/
structure BinaryOutputStatus extends TypedMeasurement Bool
  deriving DecidableEq, Repr

namespace BinaryOutputStatus

/-- The point of a new database. -/
def initial : BinaryOutputStatus := { value := false, quality := Flags.RESTART, time := 0 }

/-- A status that is online, with no time. -/
def ofValue (value : Bool) : BinaryOutputStatus :=
  { value := value, quality := Flags.getBinaryQuality Flags.ONLINE value, time := 0 }

/-- What a variation with flags is read as: the value is taken from the flags. -/
def ofQuality (quality : UInt8) (time : DNPTime) : BinaryOutputStatus :=
  { value := Flags.getBinaryValue quality, quality := quality, time := time }

/-- The flags differ, and with them the value. -/
def isEvent (old new : BinaryOutputStatus) : Bool := old.quality != new.quality

end BinaryOutputStatus

/-- `measurements::IsEvent` on unsigned values: their distance exceeds the deadband. -/
def isCountEvent (val1 val2 deadband : UInt32) : Bool :=
  let diff := if val2 > val1 then val2.toNat - val1.toNat else val1.toNat - val2.toNat
  diff > deadband.toNat

/-- `measurements::IsEvent` on `double` values. -/
def isDoubleEvent (new old : TypedMeasurement Double) (deadband : Double) : Bool :=
  if new.quality != old.quality then true
  else
    let diff := (new.value.sub old.value).abs
    if diff = Double.infinity then true else deadband.lt diff

/-- An analog input. -/
structure Analog extends TypedMeasurement Double
  deriving DecidableEq, Repr

namespace Analog

/-- The point of a new database. -/
def initial : Analog := { value := ⟨0⟩, quality := Flags.RESTART, time := 0 }

/-- The flags differ, or the value has left the deadband. -/
def isEvent (old new : Analog) (deadband : Double) : Bool :=
  isDoubleEvent new.toTypedMeasurement old.toTypedMeasurement deadband

end Analog

/-- A counter. -/
structure Counter extends TypedMeasurement UInt32
  deriving DecidableEq, Repr

namespace Counter

/-- The point of a new database. -/
def initial : Counter := { value := 0, quality := Flags.RESTART, time := 0 }

/-- The flags differ, or the count has left the deadband. -/
def isEvent (old new : Counter) (deadband : UInt32) : Bool :=
  if old.quality != new.quality then true else isCountEvent old.value new.value deadband

end Counter

/-- A frozen counter. -/
structure FrozenCounter extends TypedMeasurement UInt32
  deriving DecidableEq, Repr

namespace FrozenCounter

/-- The point of a new database. -/
def initial : FrozenCounter := { value := 0, quality := Flags.RESTART, time := 0 }

/-- The flags differ, or the count has left the deadband. -/
def isEvent (old new : FrozenCounter) (deadband : UInt32) : Bool :=
  if old.quality != new.quality then true else isCountEvent old.value new.value deadband

end FrozenCounter

/-- The status of an analog output. -/
structure AnalogOutputStatus extends TypedMeasurement Double
  deriving DecidableEq, Repr

namespace AnalogOutputStatus

/-- The point of a new database. -/
def initial : AnalogOutputStatus := { value := ⟨0⟩, quality := Flags.RESTART, time := 0 }

/-- The flags differ, or the value has left the deadband. -/
def isEvent (old new : AnalogOutputStatus) (deadband : Double) : Bool :=
  isDoubleEvent new.toTypedMeasurement old.toTypedMeasurement deadband

end AnalogOutputStatus

/-- The value of a security statistic. -/
structure SecurityStatValue where
  assocId : UInt16
  count : UInt32
  deriving DecidableEq, Repr

/-- A security statistic: what was counted for an association. -/
structure SecurityStat where
  quality : UInt8
  value : SecurityStatValue
  time : DNPTime
  deriving DecidableEq, Repr

namespace SecurityStat

/-- The point of a new database. -/
def initial : SecurityStat := { quality := Flags.RESTART, value := ⟨0, 0⟩, time := 0 }

/-- The flags differ, or the count has left the deadband. -/
def isEvent (old new : SecurityStat) (deadband : UInt32) : Bool :=
  if old.quality != new.quality then true
  else isCountEvent old.value.count new.value.count deadband

end SecurityStat

/-- A time and how often something happens from then on. -/
structure TimeAndInterval where
  time : DNPTime
  interval : UInt32
  units : UInt8
  deriving DecidableEq, Repr

/-- The point of a new database. -/
def TimeAndInterval.initial : TimeAndInterval := { time := 0, interval := 0, units := 0 }

/-- An internal indication as a value. -/
structure IINValue where
  value : Bool
  deriving DecidableEq, Repr

/-! ## Commands -/

/-- The result of a command. -/
inductive CommandStatus where
  | success
  | timeout
  | noSelect
  | formatError
  | notSupported
  | alreadyActive
  | hardwareError
  | local
  | tooManyOps
  | notAuthorized
  | automationInhibit
  | processingLimited
  | outOfRange
  | downstreamLocal
  | alreadyComplete
  | blocked
  | cancelled
  | blockedOtherMaster
  | downstreamFail
  | nonParticipating
  | undefined
  deriving DecidableEq, Repr

namespace CommandStatus

/-- The code that a status is transmitted as. -/
def toType : CommandStatus → UInt8
  | .success => 0
  | .timeout => 1
  | .noSelect => 2
  | .formatError => 3
  | .notSupported => 4
  | .alreadyActive => 5
  | .hardwareError => 6
  | .local => 7
  | .tooManyOps => 8
  | .notAuthorized => 9
  | .automationInhibit => 10
  | .processingLimited => 11
  | .outOfRange => 12
  | .downstreamLocal => 13
  | .alreadyComplete => 14
  | .blocked => 15
  | .cancelled => 16
  | .blockedOtherMaster => 17
  | .downstreamFail => 18
  | .nonParticipating => 126
  | .undefined => 127

/-- The status with a code; what the standard reserves is undefined. -/
def fromType (arg : UInt8) : CommandStatus :=
  match arg.toNat with
  | 0 => .success
  | 1 => .timeout
  | 2 => .noSelect
  | 3 => .formatError
  | 4 => .notSupported
  | 5 => .alreadyActive
  | 6 => .hardwareError
  | 7 => .local
  | 8 => .tooManyOps
  | 9 => .notAuthorized
  | 10 => .automationInhibit
  | 11 => .processingLimited
  | 12 => .outOfRange
  | 13 => .downstreamLocal
  | 14 => .alreadyComplete
  | 15 => .blocked
  | 16 => .cancelled
  | 17 => .blockedOtherMaster
  | 18 => .downstreamFail
  | 126 => .nonParticipating
  | _ => .undefined

/-- Every status survives its transmission. -/
@[simp] theorem fromType_toType (s : CommandStatus) : fromType s.toType = s := by
  cases s <;> rfl

end CommandStatus

/-- What a control relay output block asks for. -/
inductive ControlCode where
  | nul
  | nulCancel
  | pulseOn
  | pulseOnCancel
  | pulseOff
  | pulseOffCancel
  | latchOn
  | latchOnCancel
  | latchOff
  | latchOffCancel
  | closePulseOn
  | closePulseOnCancel
  | tripPulseOn
  | tripPulseOnCancel
  | undefined
  deriving DecidableEq, Repr

/-- `ControlCodeFromType`: all other codes are undefined. -/
def ControlCode.fromType (arg : UInt8) : ControlCode :=
  match arg.toNat with
  | 0x0 => .nul
  | 0x20 => .nulCancel
  | 0x1 => .pulseOn
  | 0x21 => .pulseOnCancel
  | 0x2 => .pulseOff
  | 0x22 => .pulseOffCancel
  | 0x3 => .latchOn
  | 0x23 => .latchOnCancel
  | 0x4 => .latchOff
  | 0x24 => .latchOffCancel
  | 0x41 => .closePulseOn
  | 0x61 => .closePulseOnCancel
  | 0x81 => .tripPulseOn
  | 0xA1 => .tripPulseOnCancel
  | _ => .undefined

/-- A control relay output block; the function code is a function of the raw code. -/
structure ControlRelayOutputBlock where
  rawCode : UInt8
  count : UInt8
  onTimeMS : UInt32
  offTimeMS : UInt32
  status : CommandStatus
  deriving DecidableEq, Repr

namespace ControlRelayOutputBlock

/-- The control code, which ignores the bits that have no meaning. -/
def functionCode (block : ControlRelayOutputBlock) : ControlCode := .fromType block.rawCode

/-- `ValuesEqual`: all but the status. -/
def valuesEqual (block lhs : ControlRelayOutputBlock) : Bool :=
  block.functionCode == lhs.functionCode && block.count == lhs.count &&
    block.onTimeMS == lhs.onTimeMS && block.offTimeMS == lhs.offTimeMS

end ControlRelayOutputBlock

/-- An analog output command. -/
structure AnalogOutput (T : Type) where
  value : T
  status : CommandStatus
  deriving DecidableEq, Repr

/-- A command with a 32-bit integer, group 41 variation 1. -/
abbrev AnalogOutputInt32 := AnalogOutput Int32

/-- A command with a 16-bit integer, group 41 variation 2. -/
abbrev AnalogOutputInt16 := AnalogOutput Int16

/-- A command in single precision, group 41 variation 3. -/
abbrev AnalogOutputFloat32 := AnalogOutput Single

/-- A command in double precision, group 41 variation 4. -/
abbrev AnalogOutputDouble64 := AnalogOutput Double

/-- A binary command was made, and what became of it. -/
structure BinaryCommandEvent where
  value : Bool
  status : CommandStatus
  time : DNPTime
  deriving DecidableEq, Repr

namespace BinaryCommandEvent

/-- The value is the upper bit of the flags, the status the others. -/
def ofFlags (flags : UInt8) (time : DNPTime) : BinaryCommandEvent :=
  { value := flags &&& 0x80 == 0x80, status := .fromType (flags &&& 0x7F), time := time }

/-- The flags with value and status. -/
def getFlags (m : BinaryCommandEvent) : UInt8 :=
  ((if m.value then (1 : UInt8) else 0) <<< 7) ||| m.status.toType

end BinaryCommandEvent

/-- An analog command was made, and what became of it. -/
structure AnalogCommandEvent where
  value : Double
  status : CommandStatus
  time : DNPTime
  deriving DecidableEq, Repr

/-- A value with the index of its point. -/
structure Indexed (T : Type) where
  value : T
  index : UInt16
  deriving DecidableEq, Repr

end App
end Dnp3
