import Dnp3.App.PrefixFields

/-!
# Objects of secure authentication

The objects of group 120 have a fixed part, then fields behind their lengths, and then, for most of
them, a remainder that takes what is left.  `VariableLength` says how an object of such a type is
measured, written and read; every type states its parts.  They are written behind a free-format
header, which has the size of the object in 16 bits.

Enumerations are read with a value for everything that is not assigned, so that reading an object
never fails because of them.  The fixed parts are codecs of `Library.Codec`, composed of the fields
in the order of the source, and the variable parts are `PrefixFields`.

For each type its record, `Group120VarN`, and the description of its layout, `group120VarN`, stand
side by side.  Which of its fields has a length in front of it and which is the remainder can be
read off there; `App.FreeFormat` proves for all of them at once that what is written is read back.
-/

namespace Dnp3
namespace App

open Library

/-! ## Enumerations -/

/-- The algorithms of message authentication codes. -/
inductive HMACType where
  | noMacValue
  | hmacSha1Trunc10
  | hmacSha256Trunc8
  | hmacSha256Trunc16
  | hmacSha1Trunc8
  | aesGmac
  | unknown
  deriving DecidableEq, Repr

namespace HMACType

/-- `HMACTypeToType`: the code of the algorithm. -/
def toType : HMACType → UInt8
  | .noMacValue => 0x0
  | .hmacSha1Trunc10 => 0x2
  | .hmacSha256Trunc8 => 0x3
  | .hmacSha256Trunc16 => 0x4
  | .hmacSha1Trunc8 => 0x5
  | .aesGmac => 0x6
  | .unknown => 0xFF

/-- `HMACTypeFromType`: all other codes are unknown. -/
def fromType (arg : UInt8) : HMACType :=
  match arg.toNat with
  | 0x0 => .noMacValue
  | 0x2 => .hmacSha1Trunc10
  | 0x3 => .hmacSha256Trunc8
  | 0x4 => .hmacSha256Trunc16
  | 0x5 => .hmacSha1Trunc8
  | 0x6 => .aesGmac
  | _ => .unknown

@[simp] theorem fromType_toType (x : HMACType) : fromType x.toType = x := by
  cases x <;> rfl

end HMACType

/-- Why a request is challenged. -/
inductive ChallengeReason where
  | critical
  | unknown
  deriving DecidableEq, Repr

namespace ChallengeReason

/-- `ChallengeReasonToType`: the code of the reason. -/
def toType : ChallengeReason → UInt8
  | .critical => 0x1
  | .unknown => 0xFF

/-- `ChallengeReasonFromType`: all other codes are unknown. -/
def fromType (arg : UInt8) : ChallengeReason :=
  match arg.toNat with
  | 0x1 => .critical
  | _ => .unknown

@[simp] theorem fromType_toType (x : ChallengeReason) : fromType x.toType = x := by
  cases x <;> rfl

end ChallengeReason

/-- How session keys are wrapped. -/
inductive KeyWrapAlgorithm where
  | aes128
  | aes256
  | undefined
  deriving DecidableEq, Repr

namespace KeyWrapAlgorithm

/-- `KeyWrapAlgorithmToType`: the code of the algorithm. -/
def toType : KeyWrapAlgorithm → UInt8
  | .aes128 => 0x1
  | .aes256 => 0x2
  | .undefined => 0x0

/-- `KeyWrapAlgorithmFromType`: all other codes are undefined. -/
def fromType (arg : UInt8) : KeyWrapAlgorithm :=
  match arg.toNat with
  | 0x1 => .aes128
  | 0x2 => .aes256
  | _ => .undefined

@[simp] theorem fromType_toType (x : KeyWrapAlgorithm) : fromType x.toType = x := by
  cases x <;> rfl

end KeyWrapAlgorithm

/-- The state of the session keys of a user. -/
inductive KeyStatus where
  | ok
  | notInit
  | commFail
  | authFail
  | undefined
  deriving DecidableEq, Repr

namespace KeyStatus

/-- `KeyStatusToType`: the code of the status. -/
def toType : KeyStatus → UInt8
  | .ok => 0x1
  | .notInit => 0x2
  | .commFail => 0x3
  | .authFail => 0x4
  | .undefined => 0x0

/-- `KeyStatusFromType`: all other codes are undefined. -/
def fromType (arg : UInt8) : KeyStatus :=
  match arg.toNat with
  | 0x1 => .ok
  | 0x2 => .notInit
  | 0x3 => .commFail
  | 0x4 => .authFail
  | _ => .undefined

@[simp] theorem fromType_toType (x : KeyStatus) : fromType x.toType = x := by
  cases x <;> rfl

end KeyStatus

/-- What is answered to a request that is not authenticated. -/
inductive AuthErrorCode where
  | authenticationFailed
  | aggressiveModeUnsupported
  | macNotSupported
  | keyWrapNotSupported
  | authorizationFailed
  | updateKeyMethodNotPermitted
  | invalidSignature
  | invalidCertificationData
  | unknownUser
  | maxSessionKeyStatusRequestsExceeded
  | unknown
  deriving DecidableEq, Repr

namespace AuthErrorCode

/-- `AuthErrorCodeToType`: the code of the error. -/
def toType : AuthErrorCode → UInt8
  | .authenticationFailed => 0x1
  | .aggressiveModeUnsupported => 0x4
  | .macNotSupported => 0x5
  | .keyWrapNotSupported => 0x6
  | .authorizationFailed => 0x7
  | .updateKeyMethodNotPermitted => 0x8
  | .invalidSignature => 0x9
  | .invalidCertificationData => 0xA
  | .unknownUser => 0xB
  | .maxSessionKeyStatusRequestsExceeded => 0xC
  | .unknown => 0x0

/-- `AuthErrorCodeFromType`: all other codes are unknown. -/
def fromType (arg : UInt8) : AuthErrorCode :=
  match arg.toNat with
  | 0x1 => .authenticationFailed
  | 0x4 => .aggressiveModeUnsupported
  | 0x5 => .macNotSupported
  | 0x6 => .keyWrapNotSupported
  | 0x7 => .authorizationFailed
  | 0x8 => .updateKeyMethodNotPermitted
  | 0x9 => .invalidSignature
  | 0xA => .invalidCertificationData
  | 0xB => .unknownUser
  | 0xC => .maxSessionKeyStatusRequestsExceeded
  | _ => .unknown

@[simp] theorem fromType_toType (x : AuthErrorCode) : fromType x.toType = x := by
  cases x <;> rfl

end AuthErrorCode

/-- How update keys are changed. -/
inductive KeyChangeMethod where
  | aes128Sha1Hmac
  | aes256Sha256Hmac
  | aes256AesGmac
  | rsa1024DsaSha1HmacSha1
  | rsa2048DsaSha256HmacSha256
  | rsa3072DsaSha256HmacSha256
  | rsa2048DsaSha256AesGmac
  | rsa3072DsaSha256AesGmac
  | undefined
  deriving DecidableEq, Repr

namespace KeyChangeMethod

/-- `KeyChangeMethodToType`: the code of the method. -/
def toType : KeyChangeMethod → UInt8
  | .aes128Sha1Hmac => 0x3
  | .aes256Sha256Hmac => 0x4
  | .aes256AesGmac => 0x5
  | .rsa1024DsaSha1HmacSha1 => 0x43
  | .rsa2048DsaSha256HmacSha256 => 0x44
  | .rsa3072DsaSha256HmacSha256 => 0x45
  | .rsa2048DsaSha256AesGmac => 0x46
  | .rsa3072DsaSha256AesGmac => 0x47
  | .undefined => 0x0

/-- `KeyChangeMethodFromType`: all other codes are undefined. -/
def fromType (arg : UInt8) : KeyChangeMethod :=
  match arg.toNat with
  | 0x3 => .aes128Sha1Hmac
  | 0x4 => .aes256Sha256Hmac
  | 0x5 => .aes256AesGmac
  | 0x43 => .rsa1024DsaSha1HmacSha1
  | 0x44 => .rsa2048DsaSha256HmacSha256
  | 0x45 => .rsa3072DsaSha256HmacSha256
  | 0x46 => .rsa2048DsaSha256AesGmac
  | 0x47 => .rsa3072DsaSha256AesGmac
  | _ => .undefined

@[simp] theorem fromType_toType (x : KeyChangeMethod) : fromType x.toType = x := by
  cases x <;> rfl

end KeyChangeMethod

/-- What a change of a user is. -/
inductive UserOperation where
  | opAdd
  | opDelete
  | opChange
  | opUndefined
  deriving DecidableEq, Repr

namespace UserOperation

/-- `UserOperationToType`: the code of the operation. -/
def toType : UserOperation → UInt8
  | .opAdd => 0x1
  | .opDelete => 0x2
  | .opChange => 0x3
  | .opUndefined => 0xFF

/-- `UserOperationFromType`: all other codes are undefined. -/
def fromType (arg : UInt8) : UserOperation :=
  match arg.toNat with
  | 0x1 => .opAdd
  | 0x2 => .opDelete
  | 0x3 => .opChange
  | _ => .opUndefined

@[simp] theorem fromType_toType (x : UserOperation) : fromType x.toType = x := by
  cases x <;> rfl

end UserOperation

/-- What a user certificate certifies. -/
inductive CertificateType where
  | idCertificate
  | attributeCertificate
  | unknown
  deriving DecidableEq, Repr

namespace CertificateType

/-- `CertificateTypeToType`: the code of the type. -/
def toType : CertificateType → UInt8
  | .idCertificate => 0x1
  | .attributeCertificate => 0x2
  | .unknown => 0x0

/-- `CertificateTypeFromType`: all other codes are unknown. -/
def fromType (arg : UInt8) : CertificateType :=
  match arg.toNat with
  | 0x1 => .idCertificate
  | 0x2 => .attributeCertificate
  | _ => .unknown

@[simp] theorem fromType_toType (x : CertificateType) : fromType x.toType = x := by
  cases x <;> rfl

end CertificateType

namespace Layout

open Codec

/-- The octet of an HMAC algorithm. -/
def hmacType : Codec HMACType := uint8.map .fromType HMACType.toType

/-- The octet of a reason for a challenge. -/
def challengeReason : Codec ChallengeReason := uint8.map .fromType ChallengeReason.toType

/-- The octet of a key wrap algorithm. -/
def keyWrapAlgorithm : Codec KeyWrapAlgorithm := uint8.map .fromType KeyWrapAlgorithm.toType

/-- The octet of a key status. -/
def keyStatus : Codec KeyStatus := uint8.map .fromType KeyStatus.toType

/-- The octet of an error. -/
def authErrorCode : Codec AuthErrorCode := uint8.map .fromType AuthErrorCode.toType

/-- The octet of a key change method. -/
def keyChangeMethod : Codec KeyChangeMethod := uint8.map .fromType KeyChangeMethod.toType

/-- The octet of an operation on a user. -/
def userOperation : Codec UserOperation := uint8.map .fromType UserOperation.toType

/-- The octet of a certificate type. -/
def certificateType : Codec CertificateType := uint8.map .fromType CertificateType.toType

end Layout

/-! ## Objects of variable length -/

/-- `IVariableLength`, for objects `T` with a fixed part `F`. -/
structure VariableLength (F T : Type) where
  id : GroupVariationID
  MIN_SIZE : UInt32
  fixed : Codec F
  /-- The number of fields behind lengths. -/
  numFields : Nat
  /-- What is left belongs to the object. -/
  hasRemainder : Bool
  values : T → F
  fields : T → List (List UInt8)
  remainder : T → List UInt8
  ofParts : F → List (List UInt8) → List UInt8 → T
  minSize_eq : MIN_SIZE.toNat = fixed.size + numFields * 2
  length_fields : ∀ v, (fields v).length = numFields
  remainder_nil : hasRemainder = false → ∀ v, remainder v = []
  ofParts_eq : ∀ v, ofParts (values v) (fields v) (remainder v) = v

namespace VariableLength

variable {F T : Type} (type : VariableLength F T)

/-- `Size`. -/
def size (v : T) : UInt32 :=
  type.MIN_SIZE + PrefixFields.sumSizes (type.fields v) + UInt32.ofNat (type.remainder v).length

/-- The size is checked first, and then the parts are written one after the other. -/
def write (v : T) (buffer : WSlice) : WSlice × Bool :=
  if buffer.size < (type.size v).toNat then (buffer, false)
  else if PrefixFields.lengthFitsInUInt16 (type.fields v) then
    let (buffer, ok) := PrefixFields.write (buffer.write (type.fixed.write (type.values v)))
      (type.fields v)
    if ok then (buffer.write (type.remainder v), true) else (buffer, false)
  else (buffer, false)

/-- An object without a remainder has to be consumed. -/
def read (buffer : List UInt8) : Option T :=
  if buffer.length < type.MIN_SIZE.toNat then none
  else
    match PrefixFields.read type.numFields (buffer.drop type.fixed.size) with
    | (none, _) => none
    | (some fields, rest) =>
      if type.hasRemainder then some (type.ofParts (type.fixed.read buffer) fields rest)
      else if rest.isEmpty then some (type.ofParts (type.fixed.read buffer) fields [])
      else none

end VariableLength

namespace HeaderWriter

variable {F T : Type}

/-- The sizes are added up in 32 bits, and the size of the object is cast to 16 bits. -/
def writeFreeFormat (w : HeaderWriter) (type : VariableLength F T) (value : T) :
    HeaderWriter × Bool :=
  let reserveSize : UInt32 := 1 + 2 + type.size value
  if w.position.size < (3 + reserveSize).toNat then (w, false)
  else
    let (w, ok) := w.writeHeader type.id .uint16FreeFormat
    if ok then
      let (position, written) := type.write value
        ((w.position.write [1]).write (leBytes 2 (type.size value).toNat))
      ({ w with position := position }, written)
    else (w, false)

end HeaderWriter

/-! ## Group 120 -/

/-- Authentication, challenge: random data that the reply has to be calculated of. -/
structure Group120Var1 where
  challengeSeqNum : UInt32
  userNum : UInt16
  hmacAlgo : HMACType
  challengeReason : ChallengeReason
  challengeData : List UInt8
  deriving DecidableEq, Repr

/-- The challenge data is whatever follows the fixed fields. -/
def group120Var1 : VariableLength (UInt32 × UInt16 × HMACType × ChallengeReason) Group120Var1 where
  id := ⟨120, 1⟩
  MIN_SIZE := 8
  fixed := Codec.uint32.prod (Codec.uint16.prod (Layout.hmacType.prod Layout.challengeReason))
  numFields := 0
  hasRemainder := true
  values v := (v.challengeSeqNum, v.userNum, v.hmacAlgo, v.challengeReason)
  fields _ := []
  remainder v := v.challengeData
  ofParts f _ rest := ⟨f.1, f.2.1, f.2.2.1, f.2.2.2, rest⟩
  minSize_eq := rfl
  length_fields _ := rfl
  remainder_nil h := nomatch h
  ofParts_eq _ := rfl

/-- Authentication, reply: the code that was calculated of a challenge. -/
structure Group120Var2 where
  challengeSeqNum : UInt32
  userNum : UInt16
  hmacValue : List UInt8
  deriving DecidableEq, Repr

/-- The code is whatever follows the fixed fields. -/
def group120Var2 : VariableLength (UInt32 × UInt16) Group120Var2 where
  id := ⟨120, 2⟩
  MIN_SIZE := 6
  fixed := Codec.uint32.prod Codec.uint16
  numFields := 0
  hasRemainder := true
  values v := (v.challengeSeqNum, v.userNum)
  fields _ := []
  remainder v := v.hmacValue
  ofParts f _ rest := ⟨f.1, f.2, rest⟩
  minSize_eq := rfl
  length_fields _ := rfl
  remainder_nil h := nomatch h
  ofParts_eq _ := rfl

/-- Authentication, session key status: what the next key change has to repeat. -/
structure Group120Var5 where
  keyChangeSeqNum : UInt32
  userNum : UInt16
  keyWrapAlgo : KeyWrapAlgorithm
  keyStatus : KeyStatus
  hmacAlgo : HMACType
  challengeData : List UInt8
  hmacValue : List UInt8
  deriving DecidableEq, Repr

/-- The challenge data has its length in front; the code is what follows it. -/
def group120Var5 : VariableLength (UInt32 × UInt16 × KeyWrapAlgorithm × KeyStatus × HMACType)
    Group120Var5 where
  id := ⟨120, 5⟩
  MIN_SIZE := 11
  fixed := Codec.uint32.prod (Codec.uint16.prod (Layout.keyWrapAlgorithm.prod
    (Layout.keyStatus.prod Layout.hmacType)))
  numFields := 1
  hasRemainder := true
  values v := (v.keyChangeSeqNum, v.userNum, v.keyWrapAlgo, v.keyStatus, v.hmacAlgo)
  fields v := [v.challengeData]
  remainder v := v.hmacValue
  ofParts f fields rest := ⟨f.1, f.2.1, f.2.2.1, f.2.2.2.1, f.2.2.2.2, fields.getD 0 [], rest⟩
  minSize_eq := rfl
  length_fields _ := rfl
  remainder_nil h := nomatch h
  ofParts_eq _ := rfl

/-- Authentication, session key change: both keys, wrapped with the update key. -/
structure Group120Var6 where
  keyChangeSeqNum : UInt32
  userNum : UInt16
  keyWrapData : List UInt8
  deriving DecidableEq, Repr

/-- The wrapped keys are whatever follows the fixed fields. -/
def group120Var6 : VariableLength (UInt32 × UInt16) Group120Var6 where
  id := ⟨120, 6⟩
  MIN_SIZE := 6
  fixed := Codec.uint32.prod Codec.uint16
  numFields := 0
  hasRemainder := true
  values v := (v.keyChangeSeqNum, v.userNum)
  fields _ := []
  remainder v := v.keyWrapData
  ofParts f _ rest := ⟨f.1, f.2, rest⟩
  minSize_eq := rfl
  length_fields _ := rfl
  remainder_nil h := nomatch h
  ofParts_eq _ := rfl

/-- Authentication, error: why a request was not authenticated. -/
structure Group120Var7 where
  challengeSeqNum : UInt32
  userNum : UInt16
  assocId : UInt16
  errorCode : AuthErrorCode
  time : DNPTime
  errorText : List UInt8
  deriving DecidableEq, Repr

/-- The text is whatever follows the fixed fields. -/
def group120Var7 : VariableLength (UInt32 × UInt16 × UInt16 × AuthErrorCode × DNPTime)
    Group120Var7 where
  id := ⟨120, 7⟩
  MIN_SIZE := 15
  fixed := Codec.uint32.prod (Codec.uint16.prod (Codec.uint16.prod
    (Layout.authErrorCode.prod dnpTime)))
  numFields := 0
  hasRemainder := true
  values v := (v.challengeSeqNum, v.userNum, v.assocId, v.errorCode, v.time)
  fields _ := []
  remainder v := v.errorText
  ofParts f _ rest := ⟨f.1, f.2.1, f.2.2.1, f.2.2.2.1, f.2.2.2.2, rest⟩
  minSize_eq := rfl
  length_fields _ := rfl
  remainder_nil h := nomatch h
  ofParts_eq _ := rfl

/-- Authentication, user certificate. -/
structure Group120Var8 where
  keyChangeMethod : KeyChangeMethod
  certificateType : CertificateType
  certificate : List UInt8
  deriving DecidableEq, Repr

/-- The certificate is whatever follows the fixed fields. -/
def group120Var8 : VariableLength (KeyChangeMethod × CertificateType) Group120Var8 where
  id := ⟨120, 8⟩
  MIN_SIZE := 2
  fixed := Layout.keyChangeMethod.prod Layout.certificateType
  numFields := 0
  hasRemainder := true
  values v := (v.keyChangeMethod, v.certificateType)
  fields _ := []
  remainder v := v.certificate
  ofParts f _ rest := ⟨f.1, f.2, rest⟩
  minSize_eq := rfl
  length_fields _ := rfl
  remainder_nil h := nomatch h
  ofParts_eq _ := rfl

/-- Authentication, HMAC, of a request that is not challenged. -/
structure Group120Var9 where
  hmacValue : List UInt8
  deriving DecidableEq, Repr

/-- There is nothing but the code. -/
def group120Var9 : VariableLength Unit Group120Var9 where
  id := ⟨120, 9⟩
  MIN_SIZE := 0
  fixed := Codec.unit
  numFields := 0
  hasRemainder := true
  values _ := ()
  fields _ := []
  remainder v := v.hmacValue
  ofParts _ _ rest := ⟨rest⟩
  minSize_eq := rfl
  length_fields _ := rfl
  remainder_nil h := nomatch h
  ofParts_eq _ := rfl

/-- Authentication, user status change, certified by the authority. -/
structure Group120Var10 where
  keyChangeMethod : KeyChangeMethod
  userOperation : UserOperation
  statusChangeSeqNum : UInt32
  userRole : UInt16
  userRoleExpDays : UInt16
  userName : List UInt8
  userPublicKey : List UInt8
  certificationData : List UInt8
  deriving DecidableEq, Repr

/-- Name, public key and certification have their lengths in front of them, in this order. -/
def group120Var10 : VariableLength (KeyChangeMethod × UserOperation × UInt32 × UInt16 × UInt16)
    Group120Var10 where
  id := ⟨120, 10⟩
  MIN_SIZE := 16
  fixed := Layout.keyChangeMethod.prod (Layout.userOperation.prod (Codec.uint32.prod
    (Codec.uint16.prod Codec.uint16)))
  numFields := 3
  hasRemainder := false
  values v :=
    (v.keyChangeMethod, v.userOperation, v.statusChangeSeqNum, v.userRole, v.userRoleExpDays)
  fields v := [v.userName, v.userPublicKey, v.certificationData]
  remainder _ := []
  ofParts f fields _ := ⟨f.1, f.2.1, f.2.2.1, f.2.2.2.1, f.2.2.2.2, fields.getD 0 [],
    fields.getD 1 [], fields.getD 2 []⟩
  minSize_eq := rfl
  length_fields _ := rfl
  remainder_nil _ _ := rfl
  ofParts_eq _ := rfl

/-- Authentication, update key change request: who asks, and the master's challenge. -/
structure Group120Var11 where
  keyChangeMethod : KeyChangeMethod
  userName : List UInt8
  challengeData : List UInt8
  deriving DecidableEq, Repr

/-- Name and challenge have their lengths in front of them. -/
def group120Var11 : VariableLength KeyChangeMethod Group120Var11 where
  id := ⟨120, 11⟩
  MIN_SIZE := 5
  fixed := Layout.keyChangeMethod
  numFields := 2
  hasRemainder := false
  values := Group120Var11.keyChangeMethod
  fields v := [v.userName, v.challengeData]
  remainder _ := []
  ofParts f fields _ := ⟨f, fields.getD 0 [], fields.getD 1 []⟩
  minSize_eq := rfl
  length_fields _ := rfl
  remainder_nil _ _ := rfl
  ofParts_eq _ := rfl

/-- Authentication, update key change reply: the outstation's challenge. -/
structure Group120Var12 where
  keyChangeSeqNum : UInt32
  userNum : UInt16
  challengeData : List UInt8
  deriving DecidableEq, Repr

/-- The challenge has its length in front. -/
def group120Var12 : VariableLength (UInt32 × UInt16) Group120Var12 where
  id := ⟨120, 12⟩
  MIN_SIZE := 8
  fixed := Codec.uint32.prod Codec.uint16
  numFields := 1
  hasRemainder := false
  values v := (v.keyChangeSeqNum, v.userNum)
  fields v := [v.challengeData]
  remainder _ := []
  ofParts f fields _ := ⟨f.1, f.2, fields.getD 0 []⟩
  minSize_eq := rfl
  length_fields _ := rfl
  remainder_nil _ _ := rfl
  ofParts_eq _ := rfl

/-- Authentication, update key change: the key, encrypted for the outstation. -/
structure Group120Var13 where
  keyChangeSeqNum : UInt32
  userNum : UInt16
  encryptedUpdateKey : List UInt8
  deriving DecidableEq, Repr

/-- The encrypted key has its length in front. -/
def group120Var13 : VariableLength (UInt32 × UInt16) Group120Var13 where
  id := ⟨120, 13⟩
  MIN_SIZE := 8
  fixed := Codec.uint32.prod Codec.uint16
  numFields := 1
  hasRemainder := false
  values v := (v.keyChangeSeqNum, v.userNum)
  fields v := [v.encryptedUpdateKey]
  remainder _ := []
  ofParts f fields _ := ⟨f.1, f.2, fields.getD 0 []⟩
  minSize_eq := rfl
  length_fields _ := rfl
  remainder_nil _ _ := rfl
  ofParts_eq _ := rfl

/-- Authentication, update key change signature. -/
structure Group120Var14 where
  digitalSignature : List UInt8
  deriving DecidableEq, Repr

/-- There is nothing but the signature. -/
def group120Var14 : VariableLength Unit Group120Var14 where
  id := ⟨120, 14⟩
  MIN_SIZE := 0
  fixed := Codec.unit
  numFields := 0
  hasRemainder := true
  values _ := ()
  fields _ := []
  remainder v := v.digitalSignature
  ofParts _ _ rest := ⟨rest⟩
  minSize_eq := rfl
  length_fields _ := rfl
  remainder_nil h := nomatch h
  ofParts_eq _ := rfl

/-- Authentication, update key change confirmation. -/
structure Group120Var15 where
  hmacValue : List UInt8
  deriving DecidableEq, Repr

/-- There is nothing but the code. -/
def group120Var15 : VariableLength Unit Group120Var15 where
  id := ⟨120, 15⟩
  MIN_SIZE := 0
  fixed := Codec.unit
  numFields := 0
  hasRemainder := true
  values _ := ()
  fields _ := []
  remainder v := v.hmacValue
  ofParts _ _ rest := ⟨rest⟩
  minSize_eq := rfl
  length_fields _ := rfl
  remainder_nil h := nomatch h
  ofParts_eq _ := rfl

end App
end Dnp3
