import Dnp3.App.ParsedHeaders
import Dnp3.App.APDUHandler
import Dnp3.Secauth.SessionKeyChange

/-!
# What an outstation keeps for secure authentication

`OutstationSecurity` is the state that an outstation with secure authentication has beside the plain
one: the challenge it waits on, a request that came in while it could not transmit, the users with
their keys and sessions, and the changes of users that an authority has announced.  The handlers
that read the objects of a request accept a fixed sequence of headers.

The algorithms of authentication codes, the block cipher and the source of random bytes are
parameters.

The pieces of this state are the classes of the source.  `SessionStore`, which keeps the session
keys, has a module of its own, and so has the database of the users.  `CriticalFunctions` and the
permissions of the roles decide which requests are challenged and which are refused;
`ChallengeState` keeps the challenge and the critical request, `UpdateKeyChangeState` the challenge
of a key change, and `PendingUserStatusChanges` what the authority has announced.  The functions on
them are pure; the context that calls them is `OAuthContext`.
-/

namespace Dnp3
namespace Secauth

open App Library Master

/-! ## Enumerations -/

/-- `SecurityStatIndex`. -/
inductive SecurityStatIndex where
  | unexpectedMessages
  | authorizationFailures
  | authenticationFailures
  | replyTimeouts
  | rekeysDueToAuthFailue
  | totalMessagesTx
  | totalMessagesRx
  | criticalMessagesTx
  | criticalMessagesRx
  | discaredMessages
  | errorMessagesTx
  | errorMessagesRx
  | successfulAuths
  | sessionKeyChanges
  | failedSessionKeyChanges
  | updateKeyChanges
  | failedUpdateKeyChanges
  | rekeysDueToRestart
  deriving DecidableEq, Repr

namespace SecurityStatIndex

/-- The index of the point that a statistic is kept at. -/
def toType : SecurityStatIndex → UInt16
  | .unexpectedMessages => 0
  | .authorizationFailures => 1
  | .authenticationFailures => 2
  | .replyTimeouts => 3
  | .rekeysDueToAuthFailue => 4
  | .totalMessagesTx => 5
  | .totalMessagesRx => 6
  | .criticalMessagesTx => 7
  | .criticalMessagesRx => 8
  | .discaredMessages => 9
  | .errorMessagesTx => 10
  | .errorMessagesRx => 11
  | .successfulAuths => 12
  | .sessionKeyChanges => 13
  | .failedSessionKeyChanges => 14
  | .updateKeyChanges => 15
  | .failedUpdateKeyChanges => 16
  | .rekeysDueToRestart => 17

end SecurityStatIndex

/-- The roles of users. -/
inductive UserRole where
  | viewer
  | operator
  | engineer
  | installer
  | secadm
  | secaud
  | rbacmnt
  | singleUser
  | undefined
  deriving DecidableEq, Repr

/-- `UserRoleFromType`: all other codes are undefined. -/
def UserRole.fromType (arg : UInt16) : UserRole :=
  match arg.toNat with
  | 0 => .viewer
  | 1 => .operator
  | 2 => .engineer
  | 3 => .installer
  | 4 => .secadm
  | 5 => .secaud
  | 6 => .rbacmnt
  | 32768 => .singleUser
  | _ => .undefined

/-! ## Names -/

/-- The characters of a name are bytes. -/
def toString (slice : List UInt8) : String := String.ofList (slice.map fun b => Char.ofNat b.toNat)

/-- The characters of a name as octets. -/
def asSlice (str : String) : List UInt8 := str.toList.map fun c => UInt8.ofNat c.toNat

/-! ## Cryptography -/

/-- The crypto provider.  An authentication code may fail, and so may the source of random bytes. -/
structure CryptoProvider (W : Type) where
  getSHA1HMAC : (key data : List UInt8) → Option (Vector UInt8 20)
  getSHA256HMAC : (key data : List UInt8) → Option (Vector UInt8 32)
  getAESKeyWrap : AES
  getSecureRandom : SecureRandom W

/-- The algorithm of the codes of challenge replies, with the length they are cut to. -/
inductive HMACMode where
  | sha1Trunc8
  | sha1Trunc10
  | sha256Trunc8
  | sha256Trunc16
  deriving DecidableEq, Repr

namespace HMACMode

/-- The algorithm that the mode is announced as. -/
def toHMACType : HMACMode → HMACType
  | .sha1Trunc8 => .hmacSha1Trunc8
  | .sha1Trunc10 => .hmacSha1Trunc10
  | .sha256Trunc8 => .hmacSha256Trunc8
  | .sha256Trunc16 => .hmacSha256Trunc16

/-- The octets of a code that are transmitted. -/
def getTruncationSize : HMACMode → Nat
  | .sha1Trunc8 => 8
  | .sha1Trunc10 => 10
  | .sha256Trunc8 => 8
  | .sha256Trunc16 => 16

end HMACMode

namespace HMACProvider

variable {W : Type} (crypto : CryptoProvider W)

/-- The code in full length; the mode says which hash it is calculated with. -/
def getHMAC (mode : HMACMode) (key data : List UInt8) : Option (List UInt8) :=
  match mode with
  | .sha1Trunc8 | .sha1Trunc10 => (crypto.getSHA1HMAC key data).map Vector.toList
  | _ => (crypto.getSHA256HMAC key data).map Vector.toList

/-- The code of some buffers, one behind the other. -/
def compute (mode : HMACMode) (key : List UInt8) (buffers : List (List UInt8)) :
    Option (List UInt8) :=
  (getHMAC crypto mode key buffers.flatten).map (List.take mode.getTruncationSize)

theorem length_compute {mode : HMACMode} {key : List UInt8} {buffers : List (List UInt8)}
    {hmac : List UInt8} (h : compute crypto mode key buffers = some hmac) :
    hmac.length = mode.getTruncationSize := by
  obtain ⟨full, hfull, rfl⟩ := Option.map_eq_some_iff.mp h
  rw [List.length_take]
  cases mode with
  | sha1Trunc8 | sha1Trunc10 =>
    obtain ⟨code, -, rfl⟩ := Option.map_eq_some_iff.mp hfull
    rw [Vector.length_toList]
    rfl
  | sha256Trunc8 | sha256Trunc16 =>
    obtain ⟨code, -, rfl⟩ := Option.map_eq_some_iff.mp hfull
    rw [Vector.length_toList]
    rfl

end HMACProvider

/-! ## Critical functions -/

/-- Which of the functions whose authentication is optional are authenticated. -/
structure CriticalFunctions where
  authConfirm : Bool
  authRead : Bool
  authImmediateFreeze : Bool
  authImmediateFreezeNR : Bool
  authFreezeClear : Bool
  authFreezeClearNR : Bool
  authFreezeAtTime : Bool
  authFreezeAtTimeNR : Bool
  authInitData : Bool
  authAssignClass : Bool
  authDelayMeasure : Bool
  authResponse : Bool
  authUnsolicited : Bool
  deriving DecidableEq, Repr

namespace CriticalFunctions

/-- The private constructor. -/
def ofCodes (authOptionalCodes : Bool) : CriticalFunctions where
  authConfirm := authOptionalCodes
  authRead := authOptionalCodes
  authImmediateFreeze := authOptionalCodes
  authImmediateFreezeNR := authOptionalCodes
  authFreezeClear := authOptionalCodes
  authFreezeClearNR := authOptionalCodes
  authFreezeAtTime := authOptionalCodes
  authFreezeAtTimeNR := authOptionalCodes
  authInitData := authOptionalCodes
  authAssignClass := authOptionalCodes
  authDelayMeasure := authOptionalCodes
  authResponse := authOptionalCodes
  authUnsolicited := authOptionalCodes

/-- All functions that may be challenged are. -/
def authEverything : CriticalFunctions := ofCodes true

/-- A function is challenged. -/
def isCritical (f : CriticalFunctions) : FunctionCode → Bool
  | .confirm => f.authConfirm
  | .read => f.authRead
  | .immedFreeze => f.authImmediateFreeze
  | .immedFreezeNr => f.authImmediateFreezeNR
  | .freezeClear => f.authFreezeClear
  | .freezeClearNr => f.authFreezeClearNR
  | .freezeAtTime => f.authFreezeAtTime
  | .freezeAtTimeNr => f.authFreezeAtTimeNR
  | .initializeData => f.authInitData
  | .assignClass => f.authAssignClass
  | .delayMeasure => f.authDelayMeasure
  | .response => f.authResponse
  | .unsolicitedResponse => f.authUnsolicited
  | _ => true

end CriticalFunctions

/-! ## Permissions of roles -/

namespace Permissions

/-- Everything is permitted. -/
def allowAll : Permissions := ⟨~~~0⟩

/-- A function is permitted beside the others. -/
def allow (p : Permissions) (code : FunctionCode) : Permissions :=
  ⟨p.permissions ||| getMask code⟩

/-- `Allowed`, of some functions. -/
def allowed (codes : List FunctionCode) : Permissions := codes.foldl allow allowNothing

/-- What one of both permits. -/
def or (p q : Permissions) : Permissions := ⟨p.permissions ||| q.permissions⟩

end Permissions

namespace RoleBasedPermissions

/-- The functions that operate an output. -/
def OPERATE_CONTROLS : Permissions := .allowed [.select, .operate, .directOperate]

/-- Reading, and nothing else. -/
def MONITOR_DATA : Permissions := .allowed [.read]

/-- `From`. -/
def ofRole : UserRole → Permissions
  | .viewer => MONITOR_DATA
  | .operator => MONITOR_DATA.or OPERATE_CONTROLS
  | .singleUser => .allowAll
  | _ => .allowNothing

end RoleBasedPermissions

/-! ## Requests that are kept -/

/-- A fragment that is kept for later, in a buffer of some size. -/
structure DeferredASDU where
  isSet : Bool
  header : APDUHeader
  asdu : List UInt8
  maxAPDUSize : Nat
  deriving DecidableEq, Repr

namespace DeferredASDU

/-- No request is kept. -/
def initial (maxAPDUSize : Nat) : DeferredASDU where
  isSet := false
  header := { function := .unknown, control := .request 0 }
  asdu := []
  maxAPDUSize := maxAPDUSize

/-- A fragment that does not fit into the buffer is lost. -/
def setASDU (d : DeferredASDU) (header : APDUHeader) (asdu : List UInt8) : DeferredASDU where
  isSet := true
  header := header
  asdu := if d.maxAPDUSize < asdu.length then [] else asdu
  maxAPDUSize := d.maxAPDUSize

end DeferredASDU

/-! ## Challenges -/

namespace AuthSizes

/-- The header of a response, an object header, and the object with the longest challenge. -/
def MAX_OUTSTATION_CHALLENGE_RESPONSE_FRAGMENT_SIZE : Nat := 34

/-- The longest update key, that of AES-256. -/
def MAX_UPDATE_KEY_SIZE_BYTES : Nat := 32

/-- The longest name, an update key and a challenge, behind what the wrapping adds. -/
def MAX_UPDATE_KEY_UNWRAP_BUFFER_SIZE : Nat := 88

end AuthSizes

/-- The last challenge, with the request it was sent for. -/
structure ChallengeState where
  CHALLENGE_SIZE : Nat
  criticalASDU : DeferredASDU
  challengeFragment : List UInt8
  seqNumber : UInt32
  deriving DecidableEq, Repr

namespace ChallengeState

variable {W : Type}

/-- There was no challenge, and the first one has the number after 0. -/
def initial (challengeSize : Nat) (maxRxASDUSize : Nat) : ChallengeState where
  CHALLENGE_SIZE := AuthSizes.getBoundedChallengeSize challengeSize
  criticalASDU := .initial maxRxASDUSize
  challengeFragment := []
  seqNumber := 0

/-- The challenge is a response to the request, which is kept. -/
def writeChallenge (s : ChallengeState) (getSecureRandom : SecureRandom W) (world : W)
    (fragment : List UInt8) (header : APDUHeader) (response : APDUResponse)
    (hmacType : HMACType) : ChallengeState × W × APDUResponse × Bool :=
  let s := { s with criticalASDU := s.criticalASDU.setASDU header fragment }
  let response := (response.setFunction .authResponse).setControl header.control
  let (world, challengeData, ok) := getSecureRandom world s.CHALLENGE_SIZE
  if ok then
    let s := { s with seqNumber := s.seqNumber + 1 }
    let (writer, written) := response.getWriter.writeFreeFormat group120Var1
      { challengeSeqNum := s.seqNumber
        userNum := User.UNKNOWN_ID
        hmacAlgo := hmacType
        challengeReason := .critical
        challengeData := challengeData.toList }
    let response := response.withWriter writer
    if written then
      let asdu := response.toRSlice
      let s := { s with
        challengeFragment :=
          if AuthSizes.MAX_OUTSTATION_CHALLENGE_RESPONSE_FRAGMENT_SIZE < asdu.length then []
          else asdu }
      (s, world, response, !s.challengeFragment.isEmpty)
    else (s, world, response, false)
  else (s, world, response, false)

/-- A reply is the code of the challenge and of the request. -/
def verifyAuthenticity (s : ChallengeState) (crypto : CryptoProvider W) (mode : HMACMode)
    (key hmac : List UInt8) : Bool :=
  if mode.getTruncationSize ≠ hmac.length then false
  else
    match HMACProvider.compute crypto mode key [s.challengeFragment, s.criticalASDU.asdu] with
    | none => false
    | some hmacCalc => secureEquals hmac hmacCalc

theorem verifyAuthenticity_iff (s : ChallengeState) (crypto : CryptoProvider W) (mode : HMACMode)
    (key hmac : List UInt8) :
    s.verifyAuthenticity crypto mode key hmac = true ↔
      HMACProvider.compute crypto mode key [s.challengeFragment, s.criticalASDU.asdu] =
        some hmac := by
  unfold verifyAuthenticity
  split
  next hlength =>
    refine iff_of_false Bool.false_ne_true fun h => hlength ?_
    rw [HMACProvider.length_compute crypto h]
  · split
    next hnone => rw [hnone]; simp
    next hmacCalc hsome => rw [hsome, secureEquals_iff, Option.some.injEq, eq_comm]

end ChallengeState

/-! ## Update keys -/

namespace UpdateKey

/-- The algorithm that an update key of this size is for. -/
def getKeyWrapAlgorithm (size : Nat) : KeyWrapAlgorithm :=
  if size = UPDATE_KEY_SIZE_128 then .aes128
  else if size = UPDATE_KEY_SIZE_256 then .aes256
  else .undefined

/-- The constructor from a slice: a key of another size is not copied. -/
def ofSlice (key : List UInt8) : UpdateKey where
  algorithm := getKeyWrapAlgorithm key.length
  buffer := Vector.ofFn fun i =>
    if getKeyWrapAlgorithm key.length = .undefined then 0xFF else key.getD i.val 0xFF

end UpdateKey

/-- The key an authority shares with the outstation.  Only the constructor that repeats a byte makes
a valid one. -/
structure AuthorityKey where
  valid : Bool
  buffer : Vector UInt8 32
  deriving DecidableEq, Repr

namespace AuthorityKey

/-- No key was configured. -/
def invalid : AuthorityKey := ⟨false, .replicate 32 0⟩

/-- A key whose octets are all the same. -/
def repeated (byte : UInt8) : AuthorityKey := ⟨true, .replicate 32 byte⟩

/-- The constructor from a slice copies a key of the right size, and leaves it invalid. -/
def ofSlice (key : List UInt8) : AuthorityKey where
  valid := false
  buffer := Vector.ofFn fun i => if key.length = 32 then key.getD i.val 0 else 0

end AuthorityKey

/-- What is known of the authority: the number its next change may have at least, and its key. -/
structure AuthorityCredentials where
  statusChangeSeqNum : UInt32
  authorityKey : AuthorityKey
  deriving DecidableEq, Repr

namespace AuthorityCredentials

/-- Nothing was configured. -/
def initial : AuthorityCredentials := ⟨0, .invalid⟩

/-- The number that the next change may have at least. -/
def setSCSN (c : AuthorityCredentials) (statusChangeSeqNumber : UInt32) : AuthorityCredentials :=
  { c with statusChangeSeqNum := statusChangeSeqNumber }

/-- Number and key are replaced. -/
def configure (_ : AuthorityCredentials) (statusChangeSeqNumber : UInt32) (key : AuthorityKey) :
    AuthorityCredentials := ⟨statusChangeSeqNumber, key⟩

/-- The key, when there is one. -/
def getSymmetricKey (c : AuthorityCredentials) : Option (List UInt8) :=
  if c.authorityKey.valid then some c.authorityKey.buffer.toList else none

end AuthorityCredentials

/-- What the change of an update key is checked with. -/
structure VerificationData where
  username : String
  masterChallenge : List UInt8
  outstationChallenge : List UInt8
  keyChangeSeqNum : UInt32
  user : User
  deriving DecidableEq, Repr

/-- The challenge that was sent for the change of an update key, while it is valid. -/
structure UpdateKeyChangeState where
  valid : Bool
  data : VerificationData
  CHALLENGE_SIZE : Nat
  deriving DecidableEq, Repr

namespace UpdateKeyChangeState

variable {W : Type}

/-- No change was begun. -/
def initial (challengeSize : Nat) : UpdateKeyChangeState where
  valid := false
  data := {
    username := ""
    masterChallenge := []
    outstationChallenge := []
    keyChangeSeqNum := 0
    user := .unknown }
  CHALLENGE_SIZE := AuthSizes.getBoundedChallengeSize challengeSize

/-- The challenge is used up. -/
def reset (s : UpdateKeyChangeState) : UpdateKeyChangeState := { s with valid := false }

/-- A new user number is offered for the name, with a challenge. -/
def writeUpdateKeyChangeResposne (s : UpdateKeyChangeState) (getSecureRandom : SecureRandom W)
    (world : W) (writer : HeaderWriter) (ksq : UInt32) (username : String)
    (masterChallengeData : List UInt8) (freeUser : OutstationUserDatabase) :
    UpdateKeyChangeState × W × HeaderWriter × Bool :=
  let s := { s with
    valid := false
    data := { s.data with username := username, keyChangeSeqNum := ksq } }
  match freeUser.findFreeUserId with
  | none => (s, world, writer, false)
  | some user =>
    let s := { s with data := { s.data with user := user } }
    if !AuthSizes.challengeDataSizeWithinLimits masterChallengeData.length then
      (s, world, writer, false)
    else
      let s := { s with data := { s.data with masterChallenge := masterChallengeData } }
      let (world, challenge, ok) := getSecureRandom world s.CHALLENGE_SIZE
      if ok then
        let s := { s with data := { s.data with outstationChallenge := challenge.toList } }
        let (writer, success) := writer.writeFreeFormat group120Var12
          ⟨s.data.keyChangeSeqNum, s.data.user.id, s.data.outstationChallenge⟩
        ({ s with valid := success }, world, writer, success)
      else ({ s with data := { s.data with outstationChallenge := [] } }, world, writer, false)

/-- The data is handed out once. -/
def verifyUserAndKSQ (s : UpdateKeyChangeState) (ksq : UInt32) (user : User) :
    UpdateKeyChangeState × Option VerificationData :=
  if !s.valid then (s, none)
  else if ksq ≠ s.data.keyChangeSeqNum then (s.reset, none)
  else if user.id ≠ s.data.user.id then (s.reset, none)
  else (s.reset, some s.data)

end UpdateKeyChangeState

namespace EncryptedUpdateKey

/-- The name, the key and the challenge are behind one another in what is wrapped; padding may
follow. -/
def decryptAndVerify (aes : AES) (kek encryptedData : List UInt8) (username : String)
    (outstationChallengeData : List UInt8) : Option UpdateKey :=
  match AESKeyWrap.unwrapKey aes kek encryptedData AuthSizes.MAX_UPDATE_KEY_UNWRAP_BUFFER_SIZE with
  | none => none
  | some unwrapped =>
    let size := username.toList.length
    if unwrapped.length < size + AuthSizes.MAX_UPDATE_KEY_SIZE_BYTES then none
    else if toString (unwrapped.take size) ≠ username then none
    else
      let unwrapped := unwrapped.drop size
      let challengeData := (unwrapped.drop AuthSizes.MAX_UPDATE_KEY_SIZE_BYTES).take
        outstationChallengeData.length
      if secureEquals challengeData outstationChallengeData then
        some (.ofSlice (unwrapped.take AuthSizes.MAX_UPDATE_KEY_SIZE_BYTES))
      else none

end EncryptedUpdateKey

/-- What the confirmation of a key change is calculated of. -/
structure KeyChangeHMACData where
  name : String
  senderNonce : List UInt8
  receiverNonce : List UInt8
  keyChangeSeqNum : UInt32
  user : User
  deriving DecidableEq, Repr

namespace KeyChangeConfirmationHMAC

variable {W : Type} (crypto : CryptoProvider W)

/-- The code over name, both challenges, the number of the change and the user, in this order. -/
def compute (key : List UInt8) (data : KeyChangeHMACData) : Option (List UInt8) :=
  (crypto.getSHA256HMAC key (asSlice data.name ++ data.senderNonce ++ data.receiverNonce ++
    (leBytes 4 data.keyChangeSeqNum.toNat ++ leBytes 2 data.user.id.toNat))).map Vector.toList

/-- The code is the one that came in. -/
def computeAndCompare (key : List UInt8) (data : KeyChangeHMACData) (expectedHMAC : List UInt8) :
    Bool :=
  match compute crypto key data with
  | none => false
  | some hmac => secureEquals hmac expectedHMAC

theorem computeAndCompare_iff (key : List UInt8) (data : KeyChangeHMACData)
    (expectedHMAC : List UInt8) :
    computeAndCompare crypto key data expectedHMAC = true ↔
      compute crypto key data = some expectedHMAC := by
  unfold computeAndCompare
  split
  next hnone => rw [hnone]; simp
  next hmac hsome => rw [hsome, secureEquals_iff, Option.some.injEq]

end KeyChangeConfirmationHMAC

/-! ## Changes of users -/

/-- What is kept of a change until the keys of the user come in. -/
structure ChangeData where
  keyChangeMethod : KeyChangeMethod
  userRole : UserRole
  expiration : Int
  deriving DecidableEq, Repr

/-- The changes of users that wait for their keys, by the names of the users. -/
structure PendingUserStatusChanges where
  changeMap : List (String × ChangeData)
  deriving DecidableEq, Repr

namespace PendingUserStatusChanges

/-- No change is pending. -/
def empty : PendingUserStatusChanges := ⟨[]⟩

/-- The pending change of a user. -/
def find (p : PendingUserStatusChanges) (userName : String) : Option ChangeData :=
  (p.changeMap.find? fun e => e.1 == userName).map Prod.snd

/-- No change of the user is pending any longer. -/
def erase (p : PendingUserStatusChanges) (userName : String) : PendingUserStatusChanges :=
  ⟨p.changeMap.filter fun e => e.1 != userName⟩

/-- A change of the user is pending. -/
def isPending (p : PendingUserStatusChanges) (userName : String) : Bool := (p.find userName).isSome

/-- The change replaces one of the same user. -/
def queueChange (p : PendingUserStatusChanges) (username : String) (data : ChangeData) :
    PendingUserStatusChanges := ⟨(username, data) :: (p.erase username).changeMap⟩

/-- Take the pending change of a user. -/
def popChange (p : PendingUserStatusChanges) (username : String) :
    Option (PendingUserStatusChanges × ChangeData) :=
  (p.find username).map fun data => (p.erase username, data)

theorem find_erase (p : PendingUserStatusChanges) (username other : String) :
    (p.erase username).find other = if other = username then none else p.find other := by
  rw [find, find, erase, List.find?_filter]
  split
  next h =>
    subst h
    rw [List.find?_eq_none.mpr, Option.map_none]
    intro e _
    simp
  next h =>
    congr 1
    refine congrArg (fun q => List.find? q p.changeMap) (funext fun e => ?_)
    by_cases he : e.1 = other
    · simp [he, h]
    · simp [he]

theorem find_queueChange (p : PendingUserStatusChanges) (username : String) (data : ChangeData)
    (other : String) :
    (p.queueChange username data).find other =
      if other = username then some data else p.find other := by
  rw [find, queueChange, List.find?_cons]
  by_cases h : username = other
  · subst h
    simp
  · rw [if_neg fun h' => h h'.symm, beq_false_of_ne h]
    dsimp only
    rw [← find, find_erase, if_neg fun h' => h h'.symm]

end PendingUserStatusChanges

/-! ## Statistics -/

/-- The security statistics. -/
structure Statistics where
  statistics : SecurityStatIndex → UInt32

namespace Statistics

/-- Nothing was counted. -/
def initial : Statistics := ⟨fun _ => 0⟩

/-- Increment a statistic and return its value. -/
def increment (s : Statistics) (index : SecurityStatIndex) : Statistics × UInt32 :=
  (⟨Function.update s.statistics index (s.statistics index + 1)⟩, s.statistics index + 1)

end Statistics

/-- What is counted beside the statistics of the standard. -/
structure UnofficialStatistics where
  authFailuresDueToExpiredKeys : UInt32
  badStatusChangeSeqNum : UInt32
  deriving DecidableEq, Repr

/-! ## Settings and state -/

/-- How the outstation is configured. -/
structure OutstationAuthSettings where
  outstationName : String
  challengeTimeout : Int
  challengeSize : UInt16
  sessionKeyChangeChallengeSize : UInt16
  updateKeyChangeChallengeSize : UInt16
  assocId : UInt16
  hmacMode : HMACMode
  functions : CriticalFunctions
  maxAuthMsgCount : UInt32
  sessionKeyTimeout : Int
  deriving DecidableEq, Repr

/-- How long sessions last. -/
def OutstationAuthSettings.limits (settings : OutstationAuthSettings) : SessionLimits :=
  ⟨settings.sessionKeyTimeout, settings.maxAuthMsgCount⟩

/-- Whether the reply to a challenge is waited for. -/
inductive SecurityState where
  | idle
  | waitForReply
  deriving DecidableEq, Repr

/-- What an outstation knows of authentication. -/
structure OutstationSecurity where
  state : SecurityState
  challenge : ChallengeState
  /-- The timeout of the challenge, while its timer runs. -/
  challengeTimer : Option Int
  deferred : DeferredASDU
  userDB : OutstationUserDatabase
  sessionKeyChangeState : SessionKeyChangeState
  updateKeyChangeState : UpdateKeyChangeState
  sessions : SessionStore
  stats : Statistics
  otherStats : UnofficialStatistics
  credentials : AuthorityCredentials
  statusChanges : PendingUserStatusChanges

/-- Nothing has happened, and no user is known. -/
def OutstationSecurity.initial (settings : OutstationAuthSettings) (maxRxFragSize : Nat) :
    OutstationSecurity where
  state := .idle
  challenge := .initial settings.challengeSize.toNat maxRxFragSize
  challengeTimer := none
  deferred := .initial maxRxFragSize
  userDB := .empty
  sessionKeyChangeState := .initial settings.sessionKeyChangeChallengeSize.toNat
  updateKeyChangeState := .initial settings.updateKeyChangeChallengeSize.toNat
  sessions := .empty
  stats := .initial
  otherStats := ⟨0, 0⟩
  credentials := .initial
  statusChanges := .empty

/-! ## Reading requests -/

namespace SingleValueHandler

/-- One header is accepted, of one object with one qualifier. -/
def isAllowed (gv : GroupVariation) (qc : QualifierCode) : APDUParser.WhiteList :=
  fun headerCount gv' qc' => headerCount == 0 && gv' == gv && qc' == qc

variable {F T : Type}

/-- The object of a header in free format. -/
def objectOf (type : VariableLength F T) : ObjectHeader → Option T
  | .freeFormat _ object => type.read object
  | _ => none

/-- The value a request has, when it is nothing but an object of a type in free format. -/
def parse (gv : GroupVariation) (type : VariableLength F T) (objects : List UInt8) : Option T :=
  let (result, headers) := APDUParser.parse objects true (isAllowed gv .uint16FreeFormat)
  if result = .ok then headers.head?.bind (objectOf type) else none

end SingleValueHandler

/-- The reply to a challenge, if the request has nothing else. -/
def ChallengeReplyHandler.parse : List UInt8 → Option Group120Var2 :=
  SingleValueHandler.parse .group120Var2 group120Var2

/-- The change of session keys, if the request has nothing else. -/
def ChangeSessionKeysHandler.parse : List UInt8 → Option Group120Var6 :=
  SingleValueHandler.parse .group120Var6 group120Var6

/-- The change of a user, if the request has nothing else. -/
def UserStatusChangeHandler.parse : List UInt8 → Option Group120Var10 :=
  SingleValueHandler.parse .group120Var10 group120Var10

/-- The beginning of a key change, if the request has nothing else. -/
def BeginUpdateKeyChangeRequestHandler.parse : List UInt8 → Option Group120Var11 :=
  SingleValueHandler.parse .group120Var11 group120Var11

namespace RequestKeyStatusHandler

/-- `ReadOnlyValue` of a header that counts user numbers. -/
def valueOf : ObjectHeader → Option UInt16
  | .countOf _ _ (.group120Var4 [userNum]) => some userNum
  | _ => none

/-- The number of the user a request asks for. -/
def parse (objects : List UInt8) : Option UInt16 :=
  let (result, headers) := APDUParser.parse objects true
    (SingleValueHandler.isAllowed .group120Var4 .uint8Cnt)
  if result = .ok then headers.head?.bind valueOf else none

end RequestKeyStatusHandler

namespace FinishUpdateKeyChangeHandler

/-- How the change of an update key is authenticated. -/
inductive Result where
  | none
  | hmac
  | digitalSignature
  deriving DecidableEq, Repr

end FinishUpdateKeyChangeHandler

/-- What a request to change an update key has in it. -/
structure FinishUpdateKeyChangeHandler where
  keyChange : Group120Var13
  authData : List UInt8
  result : FinishUpdateKeyChangeHandler.Result
  deriving DecidableEq, Repr

namespace FinishUpdateKeyChangeHandler

/-- Nothing has been parsed. -/
def initial : FinishUpdateKeyChangeHandler := ⟨⟨0, 0, []⟩, [], .none⟩

/-- The key comes first, and what authenticates it second. -/
def isAllowed : APDUParser.WhiteList := fun headerCount gv qc =>
  if qc ≠ .uint16FreeFormat then false
  else
    match gv with
    | .group120Var13 => headerCount == 0
    | .group120Var14 | .group120Var15 => headerCount == 1
    | _ => false

/-- Keep the key, and what authenticates it. -/
def processHeader (_ : Nat) (h : FinishUpdateKeyChangeHandler) :
    ObjectHeader → FinishUpdateKeyChangeHandler × IINField
  | .freeFormat record object =>
    match record.enumeration with
    | .group120Var13 =>
      match group120Var13.read object with
      | some value => ({ h with keyChange := value }, .empty)
      | _ => (h, .empty)
    | .group120Var14 =>
      match group120Var14.read object with
      | some value =>
        ({ h with authData := value.digitalSignature, result := .digitalSignature }, .empty)
      | _ => (h, .empty)
    | .group120Var15 =>
      match group120Var15.read object with
      | some value => ({ h with authData := value.hmacValue, result := .hmac }, .empty)
      | _ => (h, .empty)
    | _ => APDUHandler.processUnsupportedHeader h
  | _ => APDUHandler.processUnsupportedHeader h

/-- The handler of a request that has the objects it needs. -/
def parse (objects : List UInt8) : Option FinishUpdateKeyChangeHandler :=
  let (result, headers) := APDUParser.parse objects true isAllowed
  let handler := (APDUHandler.onHeaders processHeader initial headers).state
  if result = .ok ∧ handler.result ≠ .none then some handler else none

end FinishUpdateKeyChangeHandler

/-- `ReadFirstGroupVariation`. -/
def readFirstGroupVariation : List UInt8 → Option GroupVariation
  | group :: variation :: _ :: _ =>
    some (GroupVariationRecord.getRecord group variation).enumeration
  | _ => none

end Secauth
end Dnp3
