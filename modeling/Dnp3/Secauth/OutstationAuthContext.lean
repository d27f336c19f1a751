import Dnp3.Outstation.OutstationRuns
import Dnp3.Secauth.OutstationSecurity

/-!
# The outstation with secure authentication

`OAuthContext` is the outstation whose requests of critical functions are challenged.  It derives
from the plain one and overrides how a parsed request is received and how tasks are started.  A
request that comes in while nothing can be transmitted is kept, and taken up before the tasks of
the plain outstation; the last one is kept.  A critical request is kept aside and answered by a
challenge; it is processed when the right reply comes in.  Requests for authentication change
session keys, update keys and users.

The plain outstation counts what it transmits by a function that is empty there and overridden
here.  It does so when it begins a transmission, and then does nothing more that depends on what is
counted; `call` counts after the call.

The log remembers what has happened.
-/

namespace Dnp3
namespace Secauth

open App Library Master Outstation

/-! ## What surrounds the outstation -/

/-- `IOutstationApplicationSA`, beside what every application does. -/
structure IOutstationApplicationSA (W : Type) where
  utcNow : W → DNPTime
  onNewSCSN : W → UInt32 → W
  onDeleteUser : W → String → User → W
  addOrUpdateUser : W → OutstationUserInfo → W

/-- What the outstation is constructed with. -/
structure Surroundings (W : Type) extends Callbacks W, IOutstationApplicationSA W,
    CryptoProvider W where
  settings : OutstationAuthSettings

/-! ## What has happened -/

/-- What the outstation did, as far as authentication is concerned. -/
inductive SecurityEffect where
  /-- A response of secure authentication goes to the lower layer. -/
  | transmitted (fragment : List UInt8)
  /-- The fragment was a challenge, and the reply to it is waited for; the request is kept. -/
  | challenged (fragment asdu : List UInt8) (header : APDUHeader)
  /-- A reply to the challenge came in. -/
  | replied (user : User) (hmacValue : List UInt8)
  /-- The reply is no longer waited for. -/
  | abandoned
  /-- A request is processed as normal. -/
  | processed (asdu : List UInt8) (header : APDUHeader)
  | sessionKeys (note : KeyNote)
  /-- The status of session keys that is kept from now on. -/
  | statusKept (user : User) (status : Group120Var5)
  /-- A change of session keys was unwrapped. -/
  | keysUnwrapped (change : Group120Var6)
  | authorityConfigured (statusChangeSeqNumber : UInt32) (key : AuthorityKey)
  /-- A change of a user was found authentic. -/
  | statusChanged (change : Group120Var10)
  /-- The change waits for the keys of the user. -/
  | changeQueued (username : String) (change : ChangeData)
  /-- A change of an update key was begun. -/
  | updateKeyBegun (data : VerificationData)
  /-- A change of an update key was found authentic. -/
  | updateKeyVerified (keyChange : Group120Var13) (authData : List UInt8) (now : Int)
      (info : OutstationUserInfo)
  /-- The application adds a user. -/
  | userConfigured (info : OutstationUserInfo)
  | userStored (info : OutstationUserInfo)
  | userDeleted (user : User)
  deriving DecidableEq, Repr

/-! ## The state -/

/-- The outstation, with what it knows of authentication. -/
structure OAuthContext (W : Type) where
  /-- The outstation it derives from. -/
  base : OContext W
  security : OutstationSecurity
  log : List SecurityEffect

/-- Whether a request was dropped. -/
inductive APDUResult where
  | processed
  | discarded
  deriving DecidableEq, Repr

namespace OAuthContext

variable {W : Type}

/-- Nothing has happened; requests of the size of a received fragment can be kept. -/
def initial (base : OContext W) (settings : OutstationAuthSettings) : OAuthContext W where
  base := base
  security := .initial settings base.params.maxRxFragSize
  log := []

/-- Remember what has happened. -/
def note (s : OAuthContext W) (e : SecurityEffect) : OAuthContext W :=
  { s with log := s.log ++ [e] }

variable (env : Surroundings W)

/-! ## Statistics and responses -/

/-- A statistic is counted, and its point is updated. -/
def increment (s : OAuthContext W) (index : SecurityStatIndex) : OAuthContext W :=
  let (stats, count) := s.security.stats.increment index
  let stat : SecurityStat :=
    { quality := Flags.ONLINE
      value := { assocId := env.settings.assocId, count := count }
      time := env.utcNow s.base.world }
  { s with
    base := s.base.updatePoint
      { type := .securityStat, value := stat, index := index.toType, mode := .detect }
    security := { s.security with stats := stats } }

/-- A request that does not fit is dropped. -/
def unexpected (s : OAuthContext W) : OAuthContext W × APDUResult :=
  (s.increment env .unexpectedMessages, .discarded)

/-- A call of the plain outstation, with what it transmits. -/
def call (s : OAuthContext W) (f : OContext W → OContext W) : OAuthContext W :=
  let s' := { s with base := f s.base }
  if !s.base.isTransmitting && s'.base.isTransmitting then s'.increment env .totalMessagesTx else s'

/-- A response of secure authentication is transmitted, and counted. -/
def beginTx (s : OAuthContext W) (response : APDUResponse) : OAuthContext W :=
  ({ s with base := s.base.beginTx }.note (.transmitted response.toRSlice)).increment env
    .totalMessagesTx

/-- All bytes of a response are written, so what the buffer had before does not matter. -/
def startAuthResponse (s : OAuthContext W) (seq : AppSeqNum) : OAuthContext W × APDUResponse :=
  let (base, iin) := s.base.getResponseIIN env.toCallbacks
  let response := (TxBuffer.initial s.base.params.maxTxFragSize).start
  ({ s with base := base },
    ((response.setFunction .authResponse).setControl (.request seq)).setIIN iin)

/-- Say why a request was not authenticated; the text is empty. -/
def tryRespondWithAuthError (s : OAuthContext W) (seq : AppSeqNum) (authSeqNum : UInt32)
    (user : User) (code : AuthErrorCode) : OAuthContext W × APDUResult :=
  let (s, response) := s.startAuthResponse env seq
  let (writer, _) := response.getWriter.writeFreeFormat group120Var7
    { challengeSeqNum := authSeqNum
      userNum := user.id
      assocId := env.settings.assocId
      errorCode := code
      time := env.utcNow s.base.world
      errorText := [] }
  ((s.increment env .errorMessagesTx).beginTx env (response.withWriter writer), .processed)

/-! ## Challenges -/

/-- `WriteChallenge`, of a response for the request. -/
def transmitChallenge (s : OAuthContext W) (apdu : List UInt8) (header : APDUHeader) :
    OAuthContext W × Bool :=
  let (s, response) := s.startAuthResponse env header.control.SEQ
  let (challenge, world, response, success) := s.security.challenge.writeChallenge
    env.getSecureRandom s.base.world apdu header response env.settings.hmacMode.toHMACType
  let s := { s with
    base := { s.base with world := world }
    security := { s.security with challenge := challenge } }
  if success then (s.beginTx env response, true) else (s, false)

/-- The challenge is waited for, and the timer is restarted. -/
def awaitReply (s : OAuthContext W) : OAuthContext W :=
  { s with
    security := { s.security with
      state := .waitForReply
      challengeTimer := some env.settings.challengeTimeout }
    log := s.log ++ [.challenged s.security.challenge.challengeFragment
      s.security.challenge.criticalASDU.asdu s.security.challenge.criticalASDU.header] }

/-- Back to the idle state, and the timer is cancelled. -/
def endWait (s : OAuthContext W) (e : SecurityEffect) : OAuthContext W :=
  { s with
    security := { s.security with state := .idle, challengeTimer := none }
    log := s.log ++ [e] }

/-- Look the session keys of a user up. -/
def tryGetSessionKeys (s : OAuthContext W) (user : User) :
    OAuthContext W × Option SessionKeysView :=
  let (sessions, _, keys) := s.security.sessions.tryGetSessionKeys s.base.now user
  ({ s with
      security := { s.security with sessions := sessions }
      log := s.log ++ [.sessionKeys (match keys with
        | some keys => .returned user keys s.base.now
        | none => .refused user)] }, keys)

/-- The use of the keys is counted. -/
def incrementSessionAuthCount (s : OAuthContext W) (user : User) : OAuthContext W :=
  { s with
    security := { s.security with
      sessions := (s.security.sessions.incrementAuthCount env.settings.limits user).1 }
    log := s.log ++ [.sessionKeys (.verified user)] }

/-- A reply came in for keys that are no longer good. -/
def countExpiredKeys (s : OAuthContext W) : OAuthContext W :=
  { s with security := { s.security with
      otherStats := { s.security.otherStats with
        authFailuresDueToExpiredKeys := s.security.otherStats.authFailuresDueToExpiredKeys + 1 } } }

/-- `ProcessAPDU` of the plain outstation. -/
def processAPDU (s : OAuthContext W) (apdu : List UInt8) (header : APDUHeader) : OAuthContext W :=
  (s.note (.processed apdu header)).call env fun base =>
    base.processAPDU env.toCallbacks header (apdu.drop 2)

/-- Whatever the reply is, it is not waited for any longer. -/
def processChallengeReply (s : OAuthContext W) (header : APDUHeader) (objects : List UInt8) :
    OAuthContext W × APDUResult :=
  if s.security.state = .idle then (s, .discarded)
  else
    match ChallengeReplyHandler.parse objects with
    | none => (s, .discarded)
    | some reply =>
      let user : User := ⟨reply.userNum⟩
      let (s, keys) := (s.endWait (.replied user reply.hmacValue)).tryGetSessionKeys user
      match keys with
      | none =>
        (s.countExpiredKeys.increment env .authenticationFailures).tryRespondWithAuthError env
          header.control.SEQ reply.challengeSeqNum user .authenticationFailed
      | some keys =>
        if s.security.challenge.verifyAuthenticity env.toCryptoProvider env.settings.hmacMode
            keys.controlKey reply.hmacValue then
          let s := s.incrementSessionAuthCount env user
          let critical := s.security.challenge.criticalASDU
          if s.security.userDB.isAuthorized user critical.header.function then
            (s.processAPDU env critical.asdu critical.header, .processed)
          else
            (s.increment env .authorizationFailures).tryRespondWithAuthError env
              header.control.SEQ reply.challengeSeqNum user .authorizationFailed
        else
          (s.increment env .authenticationFailures).tryRespondWithAuthError env
            header.control.SEQ reply.challengeSeqNum user .authenticationFailed

/-- A critical request is challenged, any other is processed, if no reply is waited for. -/
def processNormalFunction (s : OAuthContext W) (apdu : List UInt8) (header : APDUHeader) :
    OAuthContext W × APDUResult :=
  let isCritical := env.settings.functions.isCritical header.function
  let s := if isCritical then s.increment env .criticalMessagesRx else s
  if s.security.state = .waitForReply then s.unexpected env
  else if !isCritical then (s.processAPDU env apdu header, .processed)
  else
    let (s, success) := s.transmitChallenge env apdu header
    if success then (s.awaitReply env, .processed) else (s, .discarded)

/-! ## Session keys -/

/-- Look the status of a user's session keys up, which may find them expired. -/
def getSessionKeyStatus (s : OAuthContext W) (user : User) : OAuthContext W × KeyStatus :=
  let (sessions, status) := s.security.sessions.getSessionKeyStatus s.base.now user
  ({ s with security := { s.security with sessions := sessions } }, status)

/-- Whether the status is written or not, the one that is kept may change. -/
def formatKeyStatusResponse (s : OAuthContext W) (response : APDUResponse) (user : User)
    (hmacType : HMACType) (keyWrapAlgo : KeyWrapAlgorithm) (status : KeyStatus)
    (hmac : List UInt8) : OAuthContext W × APDUResponse × Bool :=
  let (state, world, writer, success) := s.security.sessionKeyChangeState.formatKeyStatusResponse
    env.getSecureRandom s.base.world response.getWriter user hmacType keyWrapAlgo status hmac
  ({ s with
      base := { s.base with world := world }
      security := { s.security with sessionKeyChangeState := state }
      log := s.log ++ [.statusKept state.lastUser state.statusRsp] },
    response.withWriter writer, success)

/-- `FormatKeyStatusResponse`, and what it is followed by. -/
def respondWithKeyStatus (s : OAuthContext W) (seq : AppSeqNum) (user : User)
    (hmacType : HMACType) (keyWrapAlgo : KeyWrapAlgorithm) (status : KeyStatus)
    (hmac : List UInt8) : OAuthContext W × APDUResult :=
  let (s, response) := s.startAuthResponse env seq
  let (s, response, success) := s.formatKeyStatusResponse env response user hmacType keyWrapAlgo
    status hmac
  if success then (s.beginTx env response, .processed) else (s, .discarded)

/-- The status goes to users that have an update key. -/
def processRequestKeyStatus (s : OAuthContext W) (header : APDUHeader) (objects : List UInt8) :
    OAuthContext W × APDUResult :=
  if s.security.state = .waitForReply then s.unexpected env
  else
    match RequestKeyStatusHandler.parse objects with
    | none => (s, .discarded)
    | some userNum =>
      let user : User := ⟨userNum⟩
      let key := s.security.userDB.getUpdateKeyView user
      if key.algorithm = .undefined then s.unexpected env
      else
        let (s, keyStatus) := s.getSessionKeyStatus user
        s.respondWithKeyStatus env header.control.SEQ user .noMacValue key.algorithm keyStatus []

/-- The keys that were unwrapped are the session keys of the user from now on. -/
def setSessionKeys (s : OAuthContext W) (change : Group120Var6) (user : User)
    (keys : SessionKeysView) : OAuthContext W :=
  { s with
    security := { s.security with
      sessions := s.security.sessions.setSessionKeys env.settings.limits s.base.now user keys }
    log := s.log ++ [.keysUnwrapped change, .sessionKeys (.installed user keys.stored s.base.now)] }

/-- The keys are taken if they are wrapped with the user's update key, together with the last
status. -/
def processChangeSessionKeys (s : OAuthContext W) (apdu : List UInt8) (header : APDUHeader)
    (objects : List UInt8) : OAuthContext W × APDUResult :=
  if s.security.state = .waitForReply then s.unexpected env
  else
    match ChangeSessionKeysHandler.parse objects with
    | none => s.unexpected env
    | some change =>
      let user : User := ⟨change.userNum⟩
      let respondWithAuthError (code : AuthErrorCode) : OAuthContext W × APDUResult :=
        s.tryRespondWithAuthError env header.control.SEQ change.keyChangeSeqNum user code
      if !s.security.sessionKeyChangeState.checkUserAndKSQMatches user change.keyChangeSeqNum then
        respondWithAuthError .unknownUser
      else
        let key := s.security.userDB.getUpdateKeyView user
        if key.algorithm = .undefined then respondWithAuthError .unknownUser
        else
          match SessionKeyUnwrapBuffer.unwrap env.getAESKeyWrap key.data change.keyWrapData with
          | none => respondWithAuthError .authenticationFailed
          | some (keys, keyStatusObject) =>
            if !s.security.sessionKeyChangeState.equalsLastStatusResponse keyStatusObject then
              respondWithAuthError .authenticationFailed
            else
              match HMACProvider.compute env.toCryptoProvider env.settings.hmacMode
                  keys.monitorKey [apdu] with
              | none => (s, .discarded)
              | some hmac =>
                (s.setSessionKeys env change user keys).respondWithKeyStatus env
                  header.control.SEQ user env.settings.hmacMode.toHMACType key.algorithm .ok hmac

/-! ## Changes of users -/

/-- An empty response. -/
def acknowledge (s : OAuthContext W) (seq : AppSeqNum) : OAuthContext W × APDUResult :=
  let (s, response) := s.startAuthResponse env seq
  (s.beginTx env response, .processed)

/-- What the code of a status change is calculated of, before the name. -/
def statusChangeFields (change : Group120Var10) : List UInt8 :=
  [change.userOperation.toType] ++ leBytes 4 change.statusChangeSeqNum.toNat ++
    leBytes 2 change.userRole.toNat ++ leBytes 2 change.userRoleExpDays.toNat ++
    leBytes 2 change.userName.length

/-- The sequence number of the change is authenticated: the next one is greater. -/
def acceptStatusChange (s : OAuthContext W) (change : Group120Var10) : OAuthContext W :=
  let nextSCSN := change.statusChangeSeqNum + 1
  { s with
    base := { s.base with world := env.onNewSCSN s.base.world nextSCSN }
    security := { s.security with credentials := s.security.credentials.setSCSN nextSCSN }
    log := s.log ++ [.statusChanged change] }

/-- A change came in whose number was used before. -/
def countBadSeqNum (s : OAuthContext W) : OAuthContext W :=
  { s with security := { s.security with
      otherStats := { s.security.otherStats with
        badStatusChangeSeqNum := s.security.otherStats.badStatusChangeSeqNum + 1 } } }

/-- The authority has certified the change, and it is a new one. -/
def authenticateUserStatusChange (s : OAuthContext W) (header : APDUHeader)
    (change : Group120Var10) : OAuthContext W × Bool :=
  let respondWithAuthError (code : AuthErrorCode) : OAuthContext W :=
    (s.tryRespondWithAuthError env header.control.SEQ change.statusChangeSeqNum .unknown code).1
  match s.security.credentials.getSymmetricKey with
  | none => (respondWithAuthError .updateKeyMethodNotPermitted, false)
  | some key =>
    match env.getSHA256HMAC key (statusChangeFields change ++ change.userName) with
    | none => (s, false)
    | some output =>
      if !secureEquals output.toList change.certificationData then
        ((respondWithAuthError .invalidCertificationData).increment env .authenticationFailures,
          false)
      else if change.statusChangeSeqNum < s.security.credentials.statusChangeSeqNum then
        ((respondWithAuthError .invalidCertificationData).countBadSeqNum, false)
      else (s.acceptStatusChange env change, true)

/-- What is kept of a change that is made at a time. -/
def changeData (now : Int) (change : Group120Var10) : ChangeData where
  keyChangeMethod := change.keyChangeMethod
  userRole := .fromType change.userRole
  expiration := MonotonicTimestamp.add now (86400000 * change.userRoleExpDays.toNat)

/-- The change waits for the keys of the user. -/
def queueChange (s : OAuthContext W) (username : String) (data : ChangeData) : OAuthContext W :=
  { s with
    security := { s.security with
      statusChanges := s.security.statusChanges.queueChange username data }
    log := s.log ++ [.changeQueued username data] }

/-- The change waits, and the request is acknowledged. -/
def queueUserStatusChange (s : OAuthContext W) (header : APDUHeader) (username : String)
    (change : Group120Var10) : OAuthContext W × APDUResult :=
  (s.queueChange username (changeData s.base.now change)).acknowledge env header.control.SEQ

/-- A user is added when its keys come in. -/
def processUserStatusChangeAdd (s : OAuthContext W) (header : APDUHeader) (username : String)
    (change : Group120Var10) : OAuthContext W × APDUResult :=
  s.queueUserStatusChange env header username change

/-- Like an addition, but the user must exist. -/
def processUserStatusChangeChange (s : OAuthContext W) (header : APDUHeader) (username : String)
    (change : Group120Var10) : OAuthContext W × APDUResult :=
  if !s.security.userDB.userNameExists username then
    s.tryRespondWithAuthError env header.control.SEQ change.statusChangeSeqNum .unknown .unknownUser
  else s.queueUserStatusChange env header username change

/-- The user is gone, with its session. -/
def deleteUser (s : OAuthContext W) (userDB : OutstationUserDatabase) (username : String)
    (user : User) : OAuthContext W :=
  { s with
    base := { s.base with world := env.onDeleteUser s.base.world username user }
    security := { s.security with
      userDB := userDB
      sessions := (s.security.sessions.invalidate user).1 }
    log := s.log ++ [.userDeleted user, .sessionKeys (.invalidated user)] }

/-- A user that exists is deleted at once. -/
def processUserStatusChangeDelete (s : OAuthContext W) (header : APDUHeader) (username : String)
    (change : Group120Var10) : OAuthContext W × APDUResult :=
  match s.security.userDB.delete username with
  | some (userDB, user) =>
    (s.deleteUser env userDB username user).acknowledge env header.control.SEQ
  | none =>
    s.tryRespondWithAuthError env header.control.SEQ change.statusChangeSeqNum .unknown .unknownUser

/-- What becomes of an authentic change is up to its operation. -/
def processUserStatusChange (s : OAuthContext W) (header : APDUHeader) (objects : List UInt8) :
    OAuthContext W × APDUResult :=
  if s.security.state = .waitForReply then s.unexpected env
  else
    match UserStatusChangeHandler.parse objects with
    | none => s.unexpected env
    | some change =>
      let (s, authentic) := s.authenticateUserStatusChange env header change
      if !authentic then (s, .discarded)
      else if change.keyChangeMethod ≠ .aes256Sha256Hmac then
        s.tryRespondWithAuthError env header.control.SEQ change.statusChangeSeqNum .unknown
          .updateKeyMethodNotPermitted
      else
        let userName := toString change.userName
        match change.userOperation with
        | .opAdd => s.processUserStatusChangeAdd env header userName change
        | .opChange => s.processUserStatusChangeChange env header userName change
        | .opDelete => s.processUserStatusChangeDelete env header userName change
        | .opUndefined => (s, .discarded)

/-! ## Update keys -/

/-- `WriteUpdateKeyChangeResposne`, of a response. -/
def writeUpdateKeyChangeResposne (s : OAuthContext W) (response : APDUResponse) (ksq : UInt32)
    (username : String) (masterChallengeData : List UInt8) :
    OAuthContext W × APDUResponse × Bool :=
  let (state, world, writer, success) :=
    s.security.updateKeyChangeState.writeUpdateKeyChangeResposne env.getSecureRandom s.base.world
      response.getWriter ksq username masterChallengeData s.security.userDB
  let s := { s with
    base := { s.base with world := world }
    security := { s.security with updateKeyChangeState := state } }
  (if success then s.note (.updateKeyBegun state.data) else s, response.withWriter writer, success)

/-- A user whose change is pending is offered a number and a challenge. -/
def processBeginUpdateKeyChange (s : OAuthContext W) (header : APDUHeader) (objects : List UInt8) :
    OAuthContext W × APDUResult :=
  match BeginUpdateKeyChangeRequestHandler.parse objects with
  | none => s.unexpected env
  | some request =>
    if request.keyChangeMethod ≠ .aes256Sha256Hmac then
      s.tryRespondWithAuthError env header.control.SEQ 0 .unknown .updateKeyMethodNotPermitted
    else
      let username := toString request.userName
      if !s.security.statusChanges.isPending username then
        s.tryRespondWithAuthError env header.control.SEQ 0 .unknown .unknownUser
      else
        let (s, response) := s.startAuthResponse env header.control.SEQ
        let (s, response, success) := s.writeUpdateKeyChangeResposne env response 0 username
          request.challengeData
        if success then (s.beginTx env response, .processed) else (s, .discarded)

/-- `VerifyUserAndKSQ`. -/
def verifyUserAndKSQ (s : OAuthContext W) (ksq : UInt32) (user : User) :
    OAuthContext W × Option VerificationData :=
  let (state, verification) := s.security.updateKeyChangeState.verifyUserAndKSQ ksq user
  ({ s with security := { s.security with updateKeyChangeState := state } }, verification)

/-- The user is stored, and its session ends. -/
def addUser (s : OAuthContext W) (info : OutstationUserInfo) : OAuthContext W :=
  { s with
    security := { s.security with
      userDB := s.security.userDB.addUser info
      sessions := (s.security.sessions.invalidate info.user).1 }
    log := s.log ++ [.userStored info, .sessionKeys (.invalidated info.user)] }

/-- What the code of the master is calculated of. -/
def masterConfirmation (verification : VerificationData) (keyChange : Group120Var13) :
    KeyChangeHMACData where
  name := env.settings.outstationName
  senderNonce := verification.masterChallenge
  receiverNonce := verification.outstationChallenge
  keyChangeSeqNum := keyChange.keyChangeSeqNum
  user := ⟨keyChange.userNum⟩

/-- What the code of the outstation is calculated of. -/
def outstationConfirmation (verification : VerificationData) : KeyChangeHMACData where
  name := verification.username
  senderNonce := verification.outstationChallenge
  receiverNonce := verification.masterChallenge
  keyChangeSeqNum := verification.keyChangeSeqNum
  user := verification.user

/-- The change of the user is taken, and the user is added. -/
def finishUserChange (s : OAuthContext W) (seq : AppSeqNum)
    (handler : FinishUpdateKeyChangeHandler) (verification : VerificationData)
    (updateKey : UpdateKey) : OAuthContext W × APDUResult :=
  let refuse (s : OAuthContext W) : OAuthContext W × APDUResult :=
    (s.tryRespondWithAuthError env seq handler.keyChange.keyChangeSeqNum
      ⟨handler.keyChange.userNum⟩ .unknownUser).1.unexpected env
  match s.security.statusChanges.popChange verification.username with
  | none => refuse s
  | some (statusChanges, userChangeData) =>
    let s := { s with security := { s.security with statusChanges := statusChanges } }
    if s.base.now > userChangeData.expiration then refuse s
    else
      match KeyChangeConfirmationHMAC.compute env.toCryptoProvider updateKey.getView.data
          (outstationConfirmation verification) with
      | none => (s, .discarded)
      | some hmacResponse =>
        let info : OutstationUserInfo :=
          { user := verification.user
            username := verification.username
            permissions := RoleBasedPermissions.ofRole userChangeData.userRole
            updateKey := updateKey }
        let s := (s.note (.updateKeyVerified handler.keyChange handler.authData s.base.now info)
          ).addUser info
        let s := { s with base := { s.base with world := env.addOrUpdateUser s.base.world info } }
        let (s, response) := s.startAuthResponse env seq
        let (writer, _) := response.getWriter.writeFreeFormat group120Var15 ⟨hmacResponse⟩
        (s.beginTx env (response.withWriter writer), .processed)

/-- The key is taken if the authority has encrypted it for the challenge, and the master has it
too. -/
def processFinishUpdateKeyChange (s : OAuthContext W) (header : APDUHeader)
    (objects : List UInt8) : OAuthContext W × APDUResult :=
  match FinishUpdateKeyChangeHandler.parse objects with
  | none => s.unexpected env
  | some handler =>
    let user : User := ⟨handler.keyChange.userNum⟩
    let ksq := handler.keyChange.keyChangeSeqNum
    let respondWithAuthError (s : OAuthContext W) (code : AuthErrorCode) : OAuthContext W :=
      (s.tryRespondWithAuthError env header.control.SEQ ksq user code).1
    if handler.result ≠ .hmac then
      (respondWithAuthError s .updateKeyMethodNotPermitted).unexpected env
    else
      let (s, verification) := s.verifyUserAndKSQ ksq user
      match verification with
      | none => (respondWithAuthError s .authenticationFailed).unexpected env
      | some verification =>
        match s.security.credentials.getSymmetricKey with
        | none => (respondWithAuthError s .updateKeyMethodNotPermitted, .discarded)
        | some authorityKey =>
          match EncryptedUpdateKey.decryptAndVerify env.getAESKeyWrap authorityKey
              handler.keyChange.encryptedUpdateKey verification.username
              verification.outstationChallenge with
          | none => (respondWithAuthError s .authenticationFailed, .discarded)
          | some updateKey =>
            if !updateKey.isValid then (respondWithAuthError s .authenticationFailed, .discarded)
            else if !KeyChangeConfirmationHMAC.computeAndCompare env.toCryptoProvider
                updateKey.getView.data (masterConfirmation env verification handler.keyChange)
                handler.authData then
              (respondWithAuthError s .invalidSignature, .discarded)
            else s.finishUserChange env header.control.SEQ handler verification updateKey

/-! ## Requests -/

/-- The first object says what a request for authentication is. -/
def processAuthRequest (s : OAuthContext W) (apdu : List UInt8) (header : APDUHeader)
    (objects : List UInt8) : OAuthContext W × APDUResult :=
  if header.control.UNS then (s, .discarded)
  else
    match readFirstGroupVariation objects with
    | some .group120Var2 => s.processChallengeReply env header objects
    | some .group120Var4 => s.processRequestKeyStatus env header objects
    | some .group120Var6 => s.processChangeSessionKeys env apdu header objects
    | some .group120Var10 => s.processUserStatusChange env header objects
    | some .group120Var11 => s.processBeginUpdateKeyChange env header objects
    | some .group120Var13 => s.processFinishUpdateKeyChange env header objects
    | _ => (s, .discarded)

/-- Requests for authentication are processed at once, others if they are allowed to. -/
def processAuthAPDU (s : OAuthContext W) (apdu : List UInt8) (header : APDUHeader)
    (objects : List UInt8) : OAuthContext W × APDUResult :=
  match header.function with
  | .authRequest => s.processAuthRequest env apdu header objects
  | .authResponse => (s, .discarded)
  | .authRequestNoAck => (s, .discarded)
  | _ => s.processNormalFunction env apdu header

/-- A request is processed when something can be transmitted, and kept otherwise. -/
def receiveParsedHeader (s : OAuthContext W) (apdu : List UInt8) (header : APDUHeader)
    (objects : List UInt8) : OAuthContext W :=
  if s.base.canTransmit then
    match s.processAuthAPDU env apdu header objects with
    | (s, .discarded) => s.increment env .discaredMessages
    | (s, .processed) => s
  else
    { s with security := { s.security with deferred := s.security.deferred.setASDU header apdu } }

/-- As in the plain outstation. -/
def parseHeader (s : OAuthContext W) (apdu : List UInt8) : OAuthContext W :=
  match APDUHeaderParser.parseRequest apdu with
  | some header =>
    if !header.control.isFirAndFin || header.control.CON then s
    else s.receiveParsedHeader env apdu header (apdu.drop 2)
  | none => s

/-- A request that was kept is processed, whatever becomes of it. -/
def processDeferred (s : OAuthContext W) : OAuthContext W :=
  let d := s.security.deferred
  let s := (s.processAuthAPDU env d.asdu d.header (d.asdu.drop 2)).1
  { s with security := { s.security with deferred := { s.security.deferred with isSet := false } } }

/-- The request that was kept is taken up before the tasks of the plain outstation. -/
def checkForTaskStart (s : OAuthContext W) : OAuthContext W :=
  let s := if s.base.canTransmit && s.security.deferred.isSet then s.processDeferred env else s
  s.call env fun base => base.checkForTaskStart env.toCallbacks

/-! ## Events -/

/-- The outstation is online, and looks for something to do. -/
def onLowerLayerUp (s : OAuthContext W) : OAuthContext W :=
  if s.base.isOnline then s
  else { s with base := { s.base with isOnline := true } }.checkForTaskStart env

/-- A request that was kept stays. -/
def onLowerLayerDown (s : OAuthContext W) : OAuthContext W :=
  if s.base.isOnline then
    { s with
      base := s.base.onLowerLayerDown
      security := { s.security with
        state := .idle
        updateKeyChangeState := s.security.updateKeyChangeState.reset
        challengeTimer := none
        sessions := s.security.sessions.clear }
      log := s.log ++ [.abandoned, .sessionKeys .cleared] }
  else s

/-- The transmission is over, whatever its result was. -/
def onSendResult (s : OAuthContext W) (_isSuccess : Bool) : OAuthContext W :=
  if !s.base.isOnline || !s.base.isTransmitting then s
  else { s with base := { s.base with isTransmitting := false } }.checkForTaskStart env

/-- A fragment is counted and parsed, unless the outstation is offline. -/
def onReceive (s : OAuthContext W) (fragment : List UInt8) : OAuthContext W :=
  if s.base.isOnline then
    ((s.increment env .totalMessagesRx).parseHeader env fragment).checkForTaskStart env
  else s

/-- The confirm timer expires. -/
def onConfirmTimeout (s : OAuthContext W) : OAuthContext W :=
  if s.base.confirmTimer.isSome then
    { s with base := s.base.expireTimer }.checkForTaskStart env
  else s

/-- The challenge timer expires. -/
def onChallengeTimeout (s : OAuthContext W) : OAuthContext W :=
  match s.security.challengeTimer with
  | none => s
  | some _ =>
    if s.security.state = .waitForReply then
      (s.endWait .abandoned).increment env .discaredMessages
    else { s with security := { s.security with challengeTimer := none } }

/-- Points are updated. -/
def onUpdates (s : OAuthContext W) (updates : List DatabaseBuffers.PointUpdate) : OAuthContext W :=
  { s with base := updates.foldl OContext.updatePoint s.base }.checkForTaskStart env

/-- Configure what is known of the authority. -/
def configureAuthority (s : OAuthContext W) (statusChangeSeqNumber : UInt32) (key : AuthorityKey) :
    OAuthContext W :=
  { s with
    security := { s.security with
      credentials := s.security.credentials.configure statusChangeSeqNumber key }
    log := s.log ++ [.authorityConfigured statusChangeSeqNumber key] }

/-- What can happen to the outstation. -/
inductive Event (W : Type) where
  | lowerLayerUp
  | lowerLayerDown
  | sendResult (isSuccess : Bool)
  | receive (fragment : List UInt8)
  | confirmTimeout
  | challengeTimeout
  | updates (updates : List DatabaseBuffers.PointUpdate)
  | setRestartIIN
  | addUser (info : OutstationUserInfo)
  | configureAuthority (statusChangeSeqNumber : UInt32) (key : AuthorityKey)
  /-- Time passes. -/
  | elapse (milliseconds : Nat)
  /-- The user code changes its own state. -/
  | surroundings (world : W)

/-- An event takes place. -/
def step (s : OAuthContext W) : Event W → OAuthContext W
  | .lowerLayerUp => s.onLowerLayerUp env
  | .lowerLayerDown => s.onLowerLayerDown
  | .sendResult isSuccess => s.onSendResult env isSuccess
  | .receive fragment => s.onReceive env fragment
  | .confirmTimeout => s.onConfirmTimeout env
  | .challengeTimeout => s.onChallengeTimeout env
  | .updates updates => s.onUpdates env updates
  | .setRestartIIN =>
    { s with base := { s.base with staticIIN := s.base.staticIIN.setBit .deviceRestart } }
  | .addUser info => (s.note (.userConfigured info)).addUser info
  | .configureAuthority statusChangeSeqNumber key => s.configureAuthority statusChangeSeqNumber key
  | .elapse milliseconds => { s with base := { s.base with now := s.base.now + milliseconds } }
  | .surroundings world => { s with base := { s.base with world := world } }

end OAuthContext
end Secauth
end Dnp3
