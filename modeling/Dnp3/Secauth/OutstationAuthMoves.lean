import Dnp3.Outstation.AnsweredRequests
import Dnp3.Secauth.OutstationAuthContext

/-!
# What an event of secure authentication is made of

Every event is a sequence of moves.  A move changes one thing, says under which conditions it does
so, and leaves its entry in the log; what is counted and what the plain outstation does by itself
are quiet.  Whatever is said of all runs is proved move by move.

`Move` has a constructor for each of these changes, with the conditions it is done under:
`Authentic` for a reply to a challenge, `Unwrapped` for new session keys, `Certified` for a change
of a user, `Confirmed` for an update key.  The moves are small, but nothing is said about their
order beyond what the state says, so an invariant is kept by every event when it is kept by every
move.  `moves_step` is this theorem; the four results about sessions, users, keys and requests begin
with it.
-/

namespace Dnp3
namespace Secauth

open App Library Master Outstation
open OContext (Rests Serves TakesUp)

namespace OAuthContext

variable {W : Type}

/-! ## Moves -/

/-- Only statistics change, the request that is kept, and what the plain outstation has that no
request is answered with. -/
structure Quiet (s s' : OAuthContext W) : Prop where
  log : s'.log = s.log
  base : Rests s.base s'.base
  security : ∃ stats otherStats deferred, s'.security =
    { s.security with stats := stats, otherStats := otherStats, deferred := deferred }

/-- The reply to the challenge is authentic, and the user may do what the request asks for. -/
structure Authentic (env : Surroundings W) (s : OAuthContext W) (user : User)
    (hmacValue : List UInt8) (keys : SessionKeysView) : Prop where
  waiting : s.security.state = .waitForReply
  returned : ((s.endWait (.replied user hmacValue)).tryGetSessionKeys user).2 = some keys
  verified : s.security.challenge.verifyAuthenticity env.toCryptoProvider env.settings.hmacMode
    keys.controlKey hmacValue = true
  authorized : s.security.userDB.isAuthorized user
    s.security.challenge.criticalASDU.header.function = true

/-- The status of session keys that is kept is the next one, or has another challenge. -/
structure Keeps (state state' : SessionKeyChangeState) : Prop where
  next : state'.statusRsp.userNum = state'.lastUser.id ∧
      state'.keyChangeSeqNum = state.keyChangeSeqNum + 1 ∧
      state'.statusRsp.keyChangeSeqNum = state'.keyChangeSeqNum ∨
    state'.lastUser = state.lastUser ∧ state'.keyChangeSeqNum = state.keyChangeSeqNum ∧
      state'.statusRsp = { state.statusRsp with challengeData := state'.statusRsp.challengeData }

/-- A status is kept. -/
def keepStatus (s : OAuthContext W) (state : SessionKeyChangeState) : OAuthContext W :=
  { s with security := { s.security with sessionKeyChangeState := state } }.note
    (.statusKept state.lastUser state.statusRsp)

/-- The request to change session keys has the last status in it, wrapped with the user's key. -/
structure Unwrapped (env : Surroundings W) (state : SessionKeyChangeState)
    (userDB : OutstationUserDatabase) (change : Group120Var6) (keys : SessionKeysView) : Prop where
  matched : state.checkUserAndKSQMatches ⟨change.userNum⟩ change.keyChangeSeqNum = true
  known : (userDB.getUpdateKeyView ⟨change.userNum⟩).algorithm ≠ .undefined
  unwrap : ∃ keyStatusObject, SessionKeyUnwrapBuffer.unwrap env.getAESKeyWrap
      (userDB.getUpdateKeyView ⟨change.userNum⟩).data change.keyWrapData =
        some (keys, keyStatusObject) ∧
    state.equalsLastStatusResponse keyStatusObject = true

/-- The authority has certified the change, and the change is a new one. -/
structure Certified (env : Surroundings W) (credentials : AuthorityCredentials)
    (change : Group120Var10) : Prop where
  certified : ∃ key output, credentials.getSymmetricKey = some key ∧
    env.getSHA256HMAC key (statusChangeFields change ++ change.userName) = some output ∧
    output.toList = change.certificationData
  new : credentials.statusChangeSeqNum ≤ change.statusChangeSeqNum

/-- The update key comes from the authority, for the challenge, and the master has it too. -/
structure Confirmed (env : Surroundings W) (credentials : AuthorityCredentials)
    (data : VerificationData) (keyChange : Group120Var13) (authData : List UInt8)
    (updateKey : UpdateKey) : Prop where
  ksq : keyChange.keyChangeSeqNum = data.keyChangeSeqNum
  user : keyChange.userNum = data.user.id
  decrypted : ∃ authorityKey, credentials.getSymmetricKey = some authorityKey ∧
    EncryptedUpdateKey.decryptAndVerify env.getAESKeyWrap authorityKey
      keyChange.encryptedUpdateKey data.username data.outstationChallenge = some updateKey
  valid : updateKey.isValid = true
  confirmed : KeyChangeConfirmationHMAC.compute env.toCryptoProvider updateKey.getView.data
    (masterConfirmation env data keyChange) = some authData

/-- The user that is stored for a change of an update key. -/
def newUser (data : VerificationData) (updateKey : UpdateKey) (change : ChangeData) :
    OutstationUserInfo where
  user := data.user
  username := data.username
  permissions := RoleBasedPermissions.ofRole change.userRole
  updateKey := updateKey

/-- The pending change is used up, and so is the challenge of the update key. -/
def takeChange (s : OAuthContext W) : OAuthContext W :=
  { s with security := { s.security with
      updateKeyChangeState := s.security.updateKeyChangeState.reset
      statusChanges :=
        s.security.statusChanges.erase s.security.updateKeyChangeState.data.username } }

/-- What may become of the outstation at once, with the conditions it is done under. -/
inductive Move (env : Surroundings W) (s : OAuthContext W) : OAuthContext W → Prop where
  | quiet {s' : OAuthContext W} (h : Quiet s s') : Move env s s'
  | transmit (fragment : List UInt8) : Move env s (s.note (.transmitted fragment))
  | writeChallenge (challenge : ChallengeState) (hidle : s.security.state = .idle) :
      Move env s { s with security := { s.security with challenge := challenge } }
  | awaitReply (hidle : s.security.state = .idle) (honline : s.base.isOnline = true)
      (hsent : ∃ log, s.log = log ++ [.transmitted s.security.challenge.challengeFragment])
      (hcritical : env.settings.functions.isCritical
        s.security.challenge.criticalASDU.header.function = true) :
      Move env s (s.awaitReply env)
  | abandon (hwait : s.security.state = .waitForReply) : Move env s (s.endWait .abandoned)
  | dropTimer (hidle : s.security.state = .idle) :
      Move env s { s with security := { s.security with challengeTimer := none } }
  | reply (user : User) (hmacValue : List UInt8) (hwait : s.security.state = .waitForReply) :
      Move env s (s.endWait (.replied user hmacValue))
  | tryGetSessionKeys (user : User) : Move env s (s.tryGetSessionKeys user).1
  | incrementAuthCount (user : User) (session : Session)
      (hfind : s.security.sessions.sessionMap.find user.id = some session)
      (hok : session.status = .ok) : Move env s (s.incrementSessionAuthCount env user)
  | authenticate (user : User) (hmacValue : List UInt8) (keys : SessionKeysView)
      (h : Authentic env s user hmacValue keys) :
      Move env s ((((s.endWait (.replied user hmacValue)).tryGetSessionKeys
        user).1.incrementSessionAuthCount env user).note
        (.processed s.security.challenge.criticalASDU.asdu
          s.security.challenge.criticalASDU.header))
  | process (asdu : List UInt8) (header : APDUHeader) (hidle : s.security.state = .idle)
      (hcritical : env.settings.functions.isCritical header.function = false) :
      Move env s (s.note (.processed asdu header))
  | serve (base : OContext W) (asdu : List UInt8) (header : APDUHeader)
      (hlast : ∃ log, s.log = log ++ [.processed asdu header])
      (h : Serves header (asdu.drop 2) s.base base) : Move env s { s with base := base }
  | takeUp (base : OContext W) (h : TakesUp s.base base) : Move env s { s with base := base }
  | getSessionKeyStatus (user : User)
      (hknown : (s.security.userDB.getUpdateKeyView user).algorithm ≠ .undefined) :
      Move env s (s.getSessionKeyStatus user).1
  | keepStatus (state : SessionKeyChangeState)
      (hkeeps : Keeps s.security.sessionKeyChangeState state) : Move env s (s.keepStatus state)
  | setSessionKeys (change : Group120Var6) (keys : SessionKeysView) (state : SessionKeyChangeState)
      (h : Unwrapped env s.security.sessionKeyChangeState s.security.userDB change keys)
      (hkeeps : Keeps s.security.sessionKeyChangeState state) :
      Move env s ((s.setSessionKeys env change ⟨change.userNum⟩ keys).keepStatus state)
  | acceptStatusChange (change : Group120Var10)
      (h : Certified env s.security.credentials change) :
      Move env s (s.acceptStatusChange env change)
  | queueChange (change : Group120Var10) (hlast : ∃ log, s.log = log ++ [.statusChanged change])
      (hmethod : change.keyChangeMethod = .aes256Sha256Hmac)
      (hoperation : change.userOperation = .opAdd ∨ change.userOperation = .opChange) :
      Move env s (s.queueChange (toString change.userName) (changeData s.base.now change))
  | deleteUser (change : Group120Var10) (userDB : OutstationUserDatabase) (user : User)
      (hlast : ∃ log, s.log = log ++ [.statusChanged change])
      (hoperation : change.userOperation = .opDelete)
      (hdelete : s.security.userDB.delete (toString change.userName) = some (userDB, user)) :
      Move env s (s.deleteUser env userDB (toString change.userName) user)
  | beginUpdateKey (state : UpdateKeyChangeState)
      (hpending : s.security.statusChanges.isPending state.data.username = true)
      (hfree : s.security.userDB.findFreeUserId = some state.data.user) :
      Move env s ({ s with security := { s.security with updateKeyChangeState := state } }.note
        (.updateKeyBegun state.data))
  | dropUpdateKey (state : UpdateKeyChangeState) (hvalid : state.valid = false) :
      Move env s { s with security := { s.security with updateKeyChangeState := state } }
  | dropChange (username : String) :
      Move env s { s with security := { s.security with
        statusChanges := s.security.statusChanges.erase username } }
  | storeUser (keyChange : Group120Var13) (authData : List UInt8) (updateKey : UpdateKey)
      (change : ChangeData) (hbegun : s.security.updateKeyChangeState.valid = true)
      (hpending : s.security.statusChanges.find s.security.updateKeyChangeState.data.username =
        some change)
      (hcurrent : s.base.now ≤ change.expiration)
      (h : Confirmed env s.security.credentials s.security.updateKeyChangeState.data keyChange
        authData updateKey) :
      Move env s ((s.takeChange.note (.updateKeyVerified keyChange authData s.base.now
        (newUser s.security.updateKeyChangeState.data updateKey change))).addUser
          (newUser s.security.updateKeyChangeState.data updateKey change))
  | configureUser (info : OutstationUserInfo) :
      Move env s ((s.note (.userConfigured info)).addUser info)
  | configureAuthority (statusChangeSeqNumber : UInt32) (key : AuthorityKey) :
      Move env s (s.configureAuthority statusChangeSeqNumber key)
  | goOnline : Move env s { s with base := { s.base with isOnline := true } }
  | goOffline (honline : s.base.isOnline = true) : Move env s s.onLowerLayerDown
  | elapse (milliseconds : Nat) :
      Move env s { s with base := { s.base with now := s.base.now + milliseconds } }

/-- Some moves, one after the other. -/
abbrev Moves (env : Surroundings W) : OAuthContext W → OAuthContext W → Prop :=
  Relation.ReflTransGen (Move env)

variable {env : Surroundings W} {s s' s'' : OAuthContext W}

theorem Move.moves (h : Move env s s') : Moves env s s' := .single h

namespace Quiet

theorem refl (s : OAuthContext W) : Quiet s s := ⟨rfl, .refl _, _, _, _, rfl⟩

/-- Only the plain outstation changes. -/
theorem of_base {base : OContext W} (h : Rests s.base base) : Quiet s { s with base := base } :=
  ⟨rfl, h, _, _, _, rfl⟩

theorem trans (h : Quiet s s') (h' : Quiet s' s'') : Quiet s s'' := by
  obtain ⟨stats, otherStats, deferred, hsecurity⟩ := h.security
  obtain ⟨stats', otherStats', deferred', hsecurity'⟩ := h'.security
  refine ⟨h'.log.trans h.log, h.base.trans h'.base, stats', otherStats', deferred', ?_⟩
  rw [hsecurity', hsecurity]

theorem moves (h : Quiet s s') : Moves env s s' := Move.moves (.quiet h)

variable (env) in
theorem increment (s : OAuthContext W) (index : SecurityStatIndex) :
    Quiet s (s.increment env index) := ⟨rfl, Rests.updatePoint _ _, _, _, _, rfl⟩

variable (env) in
theorem startAuthResponse (s : OAuthContext W) (seq : AppSeqNum) :
    Quiet s (s.startAuthResponse env seq).1 := of_base ⟨rfl, rfl, rfl, rfl⟩

theorem world (s : OAuthContext W) (world : W) :
    Quiet s { s with base := { s.base with world := world } } := of_base ⟨rfl, rfl, rfl, rfl⟩

end Quiet

/-! ## Responses -/

theorem moves_call {f : OContext W → OContext W} (h : Move env s { s with base := f s.base }) :
    Moves env s (s.call env f) := by
  unfold call
  dsimp only
  split
  · exact h.moves.trans (Quiet.increment env _ _).moves
  · exact h.moves

theorem moves_beginTx (s : OAuthContext W) (response : APDUResponse) :
    Moves env s (s.beginTx env response) := by
  have hbegin : Quiet s { s with base := s.base.beginTx } := .of_base ⟨rfl, rfl, rfl, rfl⟩
  exact (hbegin.moves.tail (.transmit response.toRSlice)).trans (Quiet.increment env _ _).moves

theorem moves_unexpected (s : OAuthContext W) : Moves env s (s.unexpected env).1 :=
  (Quiet.increment env s _).moves

theorem moves_tryRespondWithAuthError (s : OAuthContext W) (seq : AppSeqNum)
    (authSeqNum : UInt32) (user : User) (code : AuthErrorCode) :
    Moves env s (s.tryRespondWithAuthError env seq authSeqNum user code).1 := by
  unfold tryRespondWithAuthError
  exact ((Quiet.startAuthResponse env s seq).trans (.increment env _ _)).moves.trans
    (moves_beginTx _ _)

theorem moves_acknowledge (s : OAuthContext W) (seq : AppSeqNum) :
    Moves env s (s.acknowledge env seq).1 :=
  (Quiet.startAuthResponse env s seq).moves.trans (moves_beginTx _ _)

/-! ## Challenges -/

/-- A challenge that was written is in the response. -/
theorem challengeFragment_writeChallenge {state : ChallengeState} {getSecureRandom : SecureRandom W}
    {world : W} {fragment : List UInt8} {header : APDUHeader} {response : APDUResponse}
    {hmacType : HMACType}
    (h : (state.writeChallenge getSecureRandom world fragment header response hmacType).2.2.2 =
      true) :
    (state.writeChallenge getSecureRandom world fragment header response
        hmacType).1.challengeFragment =
      (state.writeChallenge getSecureRandom world fragment header response
        hmacType).2.2.1.toRSlice := by
  unfold ChallengeState.writeChallenge at h ⊢
  dsimp only at h ⊢
  split
  next hok =>
    rw [if_pos hok] at h
    split
    next hwritten =>
      rw [if_pos hwritten] at h
      dsimp only at h ⊢
      split
      next hlong =>
        rw [if_pos hlong] at h
        cases h
      next => rfl
    next hwritten =>
      rw [if_neg hwritten] at h
      cases h
  next hok =>
    rw [if_neg hok] at h
    cases h

theorem header_writeChallenge (state : ChallengeState) (getSecureRandom : SecureRandom W)
    (world : W) (fragment : List UInt8) (header : APDUHeader) (response : APDUResponse)
    (hmacType : HMACType) :
    (state.writeChallenge getSecureRandom world fragment header response
      hmacType).1.criticalASDU.header = header := by
  unfold ChallengeState.writeChallenge
  dsimp only
  split
  · split <;> rfl
  · rfl

/-- A challenge is transmitted, and waited for. -/
theorem moves_transmitChallenge {apdu : List UInt8} {header : APDUHeader} {success : Bool}
    (hidle : s.security.state = .idle) (honline : s.base.isOnline = true)
    (hcritical : env.settings.functions.isCritical header.function = true)
    (h : s.transmitChallenge env apdu header = (s', success)) :
    Moves env s (if success = true then s'.awaitReply env else s') := by
  unfold transmitChallenge at h
  have hstart := Quiet.startAuthResponse env s header.control.SEQ
  generalize s.startAuthResponse env header.control.SEQ = started at hstart h
  obtain ⟨s₁, response⟩ := started
  dsimp only at hstart h
  obtain ⟨stats, otherStats, deferred, hsecurity⟩ := hstart.security
  have hidle₁ : s₁.security.state = .idle := by rw [hsecurity]; exact hidle
  have honline₁ : s₁.base.isOnline = true := hstart.base.online.trans honline
  have hfragment := @challengeFragment_writeChallenge W s₁.security.challenge env.getSecureRandom
    s₁.base.world apdu header response env.settings.hmacMode.toHMACType
  have hheader := header_writeChallenge s₁.security.challenge env.getSecureRandom
    s₁.base.world apdu header response env.settings.hmacMode.toHMACType
  generalize s₁.security.challenge.writeChallenge env.getSecureRandom s₁.base.world apdu header
    response env.settings.hmacMode.toHMACType = written at hfragment hheader h
  obtain ⟨challenge, world, response', written⟩ := written
  dsimp only at hfragment hheader h
  have hwritten : Moves env s { s₁ with
      base := { s₁.base with world := world }
      security := { s₁.security with challenge := challenge } } :=
    (hstart.moves.tail (.writeChallenge challenge hidle₁)).trans (Quiet.world _ world).moves
  cases written with
  | false =>
    cases h
    exact hwritten
  | true =>
    cases h
    refine (hwritten.trans (moves_beginTx _ _)).tail (.awaitReply hidle₁ ?_ ?_ ?_)
    · exact (Rests.updatePoint _ _).online.trans honline₁
    · exact ⟨s₁.log, congrArg (fun fragment => s₁.log ++ [SecurityEffect.transmitted fragment])
        (hfragment rfl).symm⟩
    · exact (congrArg (fun h : APDUHeader => env.settings.functions.isCritical h.function)
        hheader).trans hcritical

theorem moves_processAPDU {asdu : List UInt8} {header : APDUHeader}
    (h : Moves env s (s'.note (.processed asdu header))) :
    Moves env s (s'.processAPDU env asdu header) :=
  h.trans (moves_call (.serve _ asdu header ⟨_, rfl⟩ (OContext.serves_processAPDU _ header _)))

/-- A function is refused, challenged, or handed to the plain outstation. -/
theorem moves_processNormalFunction (s : OAuthContext W) {apdu : List UInt8} {header : APDUHeader}
    (honline : s.base.isOnline = true) :
    Moves env s (s.processNormalFunction env apdu header).1 := by
  unfold processNormalFunction
  dsimp only
  have hcount : Quiet s (if env.settings.functions.isCritical header.function = true then
      s.increment env .criticalMessagesRx else s) := by
    split
    · exact Quiet.increment env s _
    · exact Quiet.refl s
  generalize (if env.settings.functions.isCritical header.function = true then
      s.increment env .criticalMessagesRx else s) = s₁ at hcount ⊢
  split
  · exact hcount.moves.trans (moves_unexpected s₁)
  next hwait =>
    have hidle : s₁.security.state = .idle := by
      cases hstate : s₁.security.state with
      | idle => rfl
      | waitForReply => exact absurd hstate hwait
    split
    next hcritical =>
      rw [Bool.not_eq_true'] at hcritical
      exact moves_processAPDU (hcount.moves.tail (.process apdu header hidle hcritical))
    next hcritical =>
      rw [Bool.not_eq_true', Bool.not_eq_false] at hcritical
      rcases htransmit : s₁.transmitChallenge env apdu header with ⟨s₂, success⟩
      have hmoves := moves_transmitChallenge hidle (hcount.base.online.trans honline) hcritical
        htransmit
      refine hcount.moves.trans ?_
      cases success with
      | true => exact hmoves
      | false => exact hmoves

/-- A session whose keys were returned is a good one. -/
theorem status_tryGetSessionKeys {store : SessionStore} {now : Int} {user : User}
    {keys : SessionKeysView} (h : (store.tryGetSessionKeys now user).2.2 = some keys) :
    ∃ session, (store.tryGetSessionKeys now user).1.sessionMap.find user.id = some session ∧
      session.status = .ok ∧ session.keys = keys := by
  unfold SessionStore.tryGetSessionKeys at h ⊢
  cases hfind : store.sessionMap.find user.id with
  | none =>
    rw [hfind] at h
    cases h
  | some session =>
    rw [hfind] at h
    dsimp only at h ⊢
    rw [OrderedMap.find_insert, if_pos rfl]
    unfold Session.tryGetKeyView at h ⊢
    rcases checkTimeValidity_cases session now with ⟨hok, hnow, hcheck⟩ | ⟨-, hbad⟩
    · rw [hcheck] at h ⊢
      exact ⟨session, rfl, hok, Option.some.inj h⟩
    · dsimp only at h
      rw [if_neg hbad] at h
      cases h

/-- The reply to a challenge is checked, and the critical request is done when it is right. -/
theorem moves_processChallengeReply (s : OAuthContext W) (header : APDUHeader)
    (objects : List UInt8) : Moves env s (s.processChallengeReply env header objects).1 := by
  unfold processChallengeReply
  split
  · exact .refl
  next hidle =>
    have hwait : s.security.state = .waitForReply := by
      cases hstate : s.security.state with
      | idle => exact absurd hstate hidle
      | waitForReply => rfl
    split
    · exact .refl
    next reply hparse =>
      dsimp only
      generalize hlook : (s.endWait (.replied ⟨reply.userNum⟩ reply.hmacValue)).tryGetSessionKeys
        ⟨reply.userNum⟩ = looked
      obtain ⟨s₁, keys⟩ := looked
      have hs₁ : ((s.endWait (.replied ⟨reply.userNum⟩ reply.hmacValue)).tryGetSessionKeys
        ⟨reply.userNum⟩).1 = s₁ := by rw [hlook]
      have hkeys : ((s.endWait (.replied ⟨reply.userNum⟩ reply.hmacValue)).tryGetSessionKeys
        ⟨reply.userNum⟩).2 = keys := by rw [hlook]
      have hmoves : Moves env s s₁ := by
        rw [← hs₁]
        exact (Move.moves (.reply ⟨reply.userNum⟩ reply.hmacValue hwait)).tail
          (.tryGetSessionKeys ⟨reply.userNum⟩)
      dsimp only
      cases keys with
      | none =>
        have hcount : Quiet s₁ s₁.countExpiredKeys := ⟨rfl, .refl _, _, _, _, rfl⟩
        exact hmoves.trans ((hcount.trans (.increment env _ _)).moves.trans
          (moves_tryRespondWithAuthError _ _ _ _ _))
      | some keys =>
        dsimp only
        split
        next hverify =>
          split
          next hauthorized =>
            refine moves_processAPDU (Move.moves ?_)
            subst hs₁
            exact .authenticate ⟨reply.userNum⟩ reply.hmacValue keys
              ⟨hwait, hkeys, hverify, hauthorized⟩
          next hauthorized =>
            have hsession : ∃ session, s₁.security.sessions.sessionMap.find reply.userNum =
                some session ∧ session.status = .ok := by
              subst hs₁
              obtain ⟨session, hfind, hok, -⟩ := status_tryGetSessionKeys hkeys
              exact ⟨session, hfind, hok⟩
            obtain ⟨session, hfind, hok⟩ := hsession
            exact (hmoves.tail (.incrementAuthCount ⟨reply.userNum⟩ session hfind hok)).trans
              ((Quiet.increment env _ _).moves.trans (moves_tryRespondWithAuthError _ _ _ _ _))
        next hverify =>
          exact hmoves.trans ((Quiet.increment env _ _).moves.trans
            (moves_tryRespondWithAuthError _ _ _ _ _))

/-! ## Session keys -/

theorem keeps_formatKeyStatusResponse (state : SessionKeyChangeState)
    (getSecureRandom : SecureRandom W) (world : W) (writer : HeaderWriter) (user : User)
    (hmacType : HMACType) (keyWrapAlgo : KeyWrapAlgorithm) (status : KeyStatus)
    (hmac : List UInt8) :
    Keeps state (state.formatKeyStatusResponse getSecureRandom world writer user hmacType
      keyWrapAlgo status hmac).1 := by
  constructor
  unfold SessionKeyChangeState.formatKeyStatusResponse
  dsimp only
  split
  · exact .inl ⟨rfl, rfl, rfl⟩
  · unfold SessionKeyChangeState.overwritten
    split
    · exact .inr ⟨rfl, rfl, rfl⟩
    · exact .inr ⟨rfl, rfl, rfl⟩

/-- A status is kept, and then only the plain outstation changes until the response is sent. -/
theorem moves_respondWithKeyStatus {since : OAuthContext W} (s : OAuthContext W) (seq : AppSeqNum)
    (user : User) (hmacType : HMACType) (keyWrapAlgo : KeyWrapAlgorithm) (status : KeyStatus)
    (hmac : List UInt8)
    (hkeep : ∀ state, Keeps s.security.sessionKeyChangeState state →
      Moves env since (s.keepStatus state)) :
    Moves env since (s.respondWithKeyStatus env seq user hmacType keyWrapAlgo status hmac).1 := by
  unfold respondWithKeyStatus startAuthResponse
  have hstart := (Quiet.startAuthResponse env s seq).base
  unfold startAuthResponse at hstart
  rcases hiin : s.base.getResponseIIN env.toCallbacks with ⟨base, iin⟩
  rw [hiin] at hstart
  dsimp only at hstart ⊢
  generalize (((TxBuffer.initial s.base.params.maxTxFragSize).start.setFunction
    .authResponse).setControl (.request seq)).setIIN iin = response
  have hformat : Moves env since (({ s with base := base } : OAuthContext W).formatKeyStatusResponse
      env response user hmacType keyWrapAlgo status hmac).1 := by
    unfold formatKeyStatusResponse
    have hkeeps := keeps_formatKeyStatusResponse s.security.sessionKeyChangeState
      env.getSecureRandom base.world response.getWriter user hmacType keyWrapAlgo status hmac
    dsimp only
    generalize s.security.sessionKeyChangeState.formatKeyStatusResponse env.getSecureRandom
      base.world response.getWriter user hmacType keyWrapAlgo status hmac = formatted at hkeeps ⊢
    obtain ⟨state, world, writer, success⟩ := formatted
    have hbase : Quiet (s.keepStatus state) { s.keepStatus state with base := base } :=
      .of_base hstart
    exact (hkeep state hkeeps).trans (hbase.trans (.world _ world)).moves
  generalize ({ s with base := base } : OAuthContext W).formatKeyStatusResponse env response user
    hmacType keyWrapAlgo status hmac = formatted at hformat ⊢
  obtain ⟨s₂, response', success⟩ := formatted
  cases success with
  | true => exact hformat.trans (moves_beginTx s₂ response')
  | false => exact hformat

/-- The status of the session keys is answered, with a new challenge. -/
theorem moves_processRequestKeyStatus (s : OAuthContext W) (header : APDUHeader)
    (objects : List UInt8) : Moves env s (s.processRequestKeyStatus env header objects).1 := by
  unfold processRequestKeyStatus
  split
  · exact moves_unexpected s
  · split
    · exact .refl
    next userNum hparse =>
      dsimp only
      split
      · exact moves_unexpected s
      next hknown =>
        exact moves_respondWithKeyStatus _ _ _ _ _ _ _ fun state hkeeps =>
          (Move.moves (.getSessionKeyStatus ⟨userNum⟩ hknown)).tail (.keepStatus state hkeeps)

/-- New session keys are unwrapped and checked before they are installed. -/
theorem moves_processChangeSessionKeys (s : OAuthContext W) (apdu : List UInt8)
    (header : APDUHeader) (objects : List UInt8) :
    Moves env s (s.processChangeSessionKeys env apdu header objects).1 := by
  unfold processChangeSessionKeys
  split
  · exact moves_unexpected s
  · split
    · exact moves_unexpected s
    next change hparse =>
      dsimp only
      split
      · exact moves_tryRespondWithAuthError s _ _ _ _
      next hmatches =>
        rw [Bool.not_eq_true', Bool.not_eq_false] at hmatches
        split
        · exact moves_tryRespondWithAuthError s _ _ _ _
        next hknown =>
          split
          · exact moves_tryRespondWithAuthError s _ _ _ _
          next keys keyStatusObject hunwrap =>
            split
            · exact moves_tryRespondWithAuthError s _ _ _ _
            next hstatus =>
              rw [Bool.not_eq_true', Bool.not_eq_false] at hstatus
              split
              · exact .refl
              next hmac hcompute =>
                exact moves_respondWithKeyStatus _ _ _ _ _ _ _ fun state hkeeps =>
                  Move.moves (.setSessionKeys change keys state
                    ⟨hmatches, hknown, keyStatusObject, hunwrap, hstatus⟩ hkeeps)

/-! ## Changes of users -/

/-- A change is certified, or the outstation refuses it. -/
theorem moves_authenticateUserStatusChange (s : OAuthContext W) (header : APDUHeader)
    (change : Group120Var10) :
    (s.authenticateUserStatusChange env header change).2 = false ∧
        Moves env s (s.authenticateUserStatusChange env header change).1 ∨
      s.authenticateUserStatusChange env header change = (s.acceptStatusChange env change, true) ∧
        Certified env s.security.credentials change := by
  unfold authenticateUserStatusChange
  dsimp only
  split
  · exact .inl ⟨rfl, moves_tryRespondWithAuthError s _ _ _ _⟩
  next key hkey =>
    split
    · exact .inl ⟨rfl, .refl⟩
    next output houtput =>
      split
      · exact .inl ⟨rfl, (moves_tryRespondWithAuthError s _ _ _ _).trans
          (Quiet.increment env _ _).moves⟩
      next hcertified =>
        rw [Bool.not_eq_true', Bool.not_eq_false, secureEquals_iff] at hcertified
        split
        · have hcount (t : OAuthContext W) : Quiet t t.countBadSeqNum :=
            ⟨rfl, .refl _, _, _, _, rfl⟩
          exact .inl ⟨rfl, (moves_tryRespondWithAuthError s _ _ _ _).trans (hcount _).moves⟩
        next hnew =>
          exact .inr ⟨rfl, ⟨key, output, hkey, houtput, hcertified⟩, UInt32.not_lt.mp hnew⟩

theorem moves_queueUserStatusChange {change : Group120Var10} (header : APDUHeader)
    (hlast : ∃ log, s.log = log ++ [.statusChanged change])
    (hmethod : change.keyChangeMethod = .aes256Sha256Hmac)
    (hoperation : change.userOperation = .opAdd ∨ change.userOperation = .opChange) :
    Moves env s (s.queueUserStatusChange env header (toString change.userName) change).1 :=
  (Move.moves (.queueChange change hlast hmethod hoperation)).trans (moves_acknowledge _ _)

/-- A change of a user is certified before it is done or kept. -/
theorem moves_processUserStatusChange (s : OAuthContext W) (header : APDUHeader)
    (objects : List UInt8) : Moves env s (s.processUserStatusChange env header objects).1 := by
  unfold processUserStatusChange
  split
  · exact moves_unexpected s
  · split
    · exact moves_unexpected s
    next change hparse =>
      rcases @moves_authenticateUserStatusChange W env s header change with
        ⟨hrefused, hmoves⟩ | ⟨haccepted, hcertified⟩
      · generalize s.authenticateUserStatusChange env header change = result at hrefused hmoves ⊢
        obtain ⟨s₁, authentic⟩ := result
        cases hrefused
        exact hmoves
      · rw [haccepted]
        dsimp only
        have hmoves : Moves env s (s.acceptStatusChange env change) :=
          Move.moves (.acceptStatusChange change hcertified)
        have hlast : ∃ log, (s.acceptStatusChange env change).log =
          log ++ [.statusChanged change] := ⟨s.log, rfl⟩
        generalize s.acceptStatusChange env change = s₁ at hmoves hlast ⊢
        rw [Bool.not_true, if_neg Bool.false_ne_true]
        refine hmoves.trans ?_
        split
        · exact moves_tryRespondWithAuthError s₁ _ _ _ _
        next hmethod =>
          rw [ne_eq, not_not] at hmethod
          cases hoperation : change.userOperation with
          | opAdd => exact moves_queueUserStatusChange header hlast hmethod (.inl hoperation)
          | opChange =>
            dsimp only
            unfold processUserStatusChangeChange
            split
            · exact moves_tryRespondWithAuthError s₁ _ _ _ _
            · exact moves_queueUserStatusChange header hlast hmethod (.inr hoperation)
          | opDelete =>
            dsimp only
            unfold processUserStatusChangeDelete
            split
            next userDB user hdelete =>
              exact (Move.moves (.deleteUser change userDB user hlast hoperation hdelete)).trans
                (moves_acknowledge _ _)
            · exact moves_tryRespondWithAuthError s₁ _ _ _ _
          | opUndefined => exact .refl

/-! ## Update keys -/

/-- What is offered is for the name that was asked for, and a number that nobody has. -/
theorem writeUpdateKeyChangeResposne_cases (state : UpdateKeyChangeState)
    (getSecureRandom : SecureRandom W) (world : W) (writer : HeaderWriter) (ksq : UInt32)
    (username : String) (masterChallengeData : List UInt8) (freeUser : OutstationUserDatabase)
    {state' : UpdateKeyChangeState} {world' : W} {writer' : HeaderWriter} {success : Bool}
    (h : state.writeUpdateKeyChangeResposne getSecureRandom world writer ksq username
      masterChallengeData freeUser = (state', world', writer', success)) :
    success = false ∧ state'.valid = false ∨
      success = true ∧ state'.data.username = username ∧
        freeUser.findFreeUserId = some state'.data.user := by
  unfold UpdateKeyChangeState.writeUpdateKeyChangeResposne at h
  dsimp only at h
  split at h
  · cases h
    exact .inl ⟨rfl, rfl⟩
  next user hfree =>
    split at h
    · cases h
      exact .inl ⟨rfl, rfl⟩
    · split at h
      · simp only [Prod.mk.injEq] at h
        obtain ⟨rfl, -, -, rfl⟩ := h
        cases (writer.writeFreeFormat group120Var12 _).2 with
        | false => exact .inl ⟨rfl, rfl⟩
        | true => exact .inr ⟨rfl, rfl, hfree⟩
      · cases h
        exact .inl ⟨rfl, rfl⟩

theorem moves_writeUpdateKeyChangeResposne {response response' : APDUResponse} {ksq : UInt32}
    {username : String} {masterChallengeData : List UInt8} {success : Bool}
    (hpending : s.security.statusChanges.isPending username = true)
    (h : s.writeUpdateKeyChangeResposne env response ksq username masterChallengeData =
      (s', response', success)) : Moves env s s' := by
  unfold writeUpdateKeyChangeResposne at h
  rcases hwrite : s.security.updateKeyChangeState.writeUpdateKeyChangeResposne
    env.getSecureRandom s.base.world response.getWriter ksq username masterChallengeData
    s.security.userDB with ⟨state, world, writer, success'⟩
  rw [hwrite] at h
  dsimp only at h
  rcases writeUpdateKeyChangeResposne_cases _ _ _ _ _ _ _ _ hwrite with
    ⟨rfl, hvalid⟩ | ⟨rfl, husername, hfree⟩
  · cases h
    exact (Move.moves (.dropUpdateKey state hvalid)).trans (Quiet.world _ world).moves
  · cases h
    rw [← husername] at hpending
    exact (Move.moves (.beginUpdateKey state hpending hfree)).trans (Quiet.world _ world).moves

/-- The change of an update key begins with a challenge. -/
theorem moves_processBeginUpdateKeyChange (s : OAuthContext W) (header : APDUHeader)
    (objects : List UInt8) : Moves env s (s.processBeginUpdateKeyChange env header objects).1 := by
  unfold processBeginUpdateKeyChange
  split
  · exact moves_unexpected s
  next request hparse =>
    split
    · exact moves_tryRespondWithAuthError s _ _ _ _
    · dsimp only
      split
      · exact moves_tryRespondWithAuthError s _ _ _ _
      next hpending =>
        rw [Bool.not_eq_true', Bool.not_eq_false] at hpending
        have hstart := Quiet.startAuthResponse env s header.control.SEQ
        generalize s.startAuthResponse env header.control.SEQ = started at hstart ⊢
        obtain ⟨s₁, response⟩ := started
        dsimp only at hstart ⊢
        obtain ⟨stats, otherStats, deferred, hsecurity⟩ := hstart.security
        have hpending₁ :
            s₁.security.statusChanges.isPending (toString request.userName) = true := by
          rw [hsecurity]
          exact hpending
        rcases hwrite : s₁.writeUpdateKeyChangeResposne env response 0 (toString request.userName)
          request.challengeData with ⟨s₂, response', success⟩
        have hmoves := hstart.moves.trans (moves_writeUpdateKeyChangeResposne hpending₁ hwrite)
        cases success with
        | false => exact hmoves
        | true => exact hmoves.trans (moves_beginTx s₂ response')

/-- What is checked when data for the change of an update key is asked for. -/
theorem verifyUserAndKSQ_cases (state : UpdateKeyChangeState) (ksq : UInt32) (user : User) :
    (state.verifyUserAndKSQ ksq user).2 = none ∧
        (state.verifyUserAndKSQ ksq user).1.valid = false ∨
      state.verifyUserAndKSQ ksq user = (state.reset, some state.data) ∧ state.valid = true ∧
        ksq = state.data.keyChangeSeqNum ∧ user.id = state.data.user.id := by
  unfold UpdateKeyChangeState.verifyUserAndKSQ
  split
  next hvalid => exact .inl ⟨rfl, by simpa using hvalid⟩
  next hvalid =>
    split
    · exact .inl ⟨rfl, rfl⟩
    next hksq =>
      split
      · exact .inl ⟨rfl, rfl⟩
      next huser => exact .inr ⟨rfl, by simpa using hvalid, not_not.mp hksq, not_not.mp huser⟩

/-- An update key is installed when everything about it has been confirmed. -/
theorem moves_processFinishUpdateKeyChange (s : OAuthContext W) (header : APDUHeader)
    (objects : List UInt8) :
    Moves env s (s.processFinishUpdateKeyChange env header objects).1 := by
  unfold processFinishUpdateKeyChange
  split
  · exact moves_unexpected s
  next handler hparse =>
    dsimp only
    split
    · exact (moves_tryRespondWithAuthError s _ _ _ _).trans (moves_unexpected _)
    · unfold verifyUserAndKSQ
      rcases verifyUserAndKSQ_cases s.security.updateKeyChangeState
        handler.keyChange.keyChangeSeqNum ⟨handler.keyChange.userNum⟩ with
        ⟨hnone, hvalid⟩ | ⟨hverify, hbegun, hksq, huser⟩
      · generalize s.security.updateKeyChangeState.verifyUserAndKSQ
          handler.keyChange.keyChangeSeqNum ⟨handler.keyChange.userNum⟩ = result at hnone hvalid ⊢
        obtain ⟨state, verification⟩ := result
        cases hnone
        exact (Move.moves (.dropUpdateKey state hvalid)).trans
          ((moves_tryRespondWithAuthError _ _ _ _ _).trans (moves_unexpected _))
      · rw [hverify]
        dsimp only
        -- whatever comes of it, the challenge is used up
        have hdrop : Moves env s { s with security := { s.security with
            updateKeyChangeState := s.security.updateKeyChangeState.reset } } :=
          Move.moves (.dropUpdateKey s.security.updateKeyChangeState.reset rfl)
        split
        · dsimp only
          exact hdrop.trans (moves_tryRespondWithAuthError _ _ _ _ _)
        next authorityKey hauthority =>
          split
          · dsimp only
            exact hdrop.trans (moves_tryRespondWithAuthError _ _ _ _ _)
          next updateKey hdecrypt =>
            split
            · dsimp only
              exact hdrop.trans (moves_tryRespondWithAuthError _ _ _ _ _)
            next hvalid =>
              rw [Bool.not_eq_true', Bool.not_eq_false] at hvalid
              split
              · dsimp only
                exact hdrop.trans (moves_tryRespondWithAuthError _ _ _ _ _)
              next hconfirmed =>
                rw [Bool.not_eq_true', Bool.not_eq_false,
                  KeyChangeConfirmationHMAC.computeAndCompare_iff] at hconfirmed
                unfold finishUserChange PendingUserStatusChanges.popChange
                dsimp only
                cases hpending : s.security.statusChanges.find
                    s.security.updateKeyChangeState.data.username with
                | none =>
                  exact hdrop.trans ((moves_tryRespondWithAuthError _ _ _ _ _).trans
                    (moves_unexpected _))
                | some change =>
                  dsimp only [Option.map_some]
                  have htake : Moves env s s.takeChange := hdrop.tail (.dropChange _)
                  split
                  · exact htake.trans ((moves_tryRespondWithAuthError _ _ _ _ _).trans
                      (moves_unexpected _))
                  next hcurrent =>
                    split
                    · exact htake
                    next hmacResponse hcompute =>
                      have hstore : Move env s _ := .storeUser handler.keyChange handler.authData
                        updateKey change hbegun hpending (Int.not_lt.mp hcurrent) ⟨hksq, huser,
                          ⟨authorityKey, hauthority, hdecrypt⟩, hvalid, hconfirmed⟩
                      exact (hstore.moves.trans (Quiet.world _ _).moves).trans
                        ((Quiet.startAuthResponse env _ _).moves.trans (moves_beginTx _ _))

/-! ## Requests -/

/-- Requests with objects of group 120 go to their handlers. -/
theorem moves_processAuthAPDU (s : OAuthContext W) {apdu : List UInt8} {header : APDUHeader}
    {objects : List UInt8} (honline : s.base.isOnline = true) :
    Moves env s (s.processAuthAPDU env apdu header objects).1 := by
  unfold processAuthAPDU
  split
  · unfold processAuthRequest
    split
    · exact .refl
    · split
      · exact moves_processChallengeReply s header objects
      · exact moves_processRequestKeyStatus s header objects
      · exact moves_processChangeSessionKeys s apdu header objects
      · exact moves_processUserStatusChange s header objects
      · exact moves_processBeginUpdateKeyChange s header objects
      · exact moves_processFinishUpdateKeyChange s header objects
      · exact .refl
  · exact .refl
  · exact .refl
  · exact moves_processNormalFunction s honline

theorem online_of_canTransmit {base : OContext W} (h : base.canTransmit = true) :
    base.isOnline = true := by
  unfold OContext.canTransmit at h
  exact (Bool.and_eq_true_iff.mp h).1

/-- A fragment that comes in is a sequence of moves. -/
theorem moves_parseHeader (s : OAuthContext W) (apdu : List UInt8) :
    Moves env s (s.parseHeader env apdu) := by
  unfold parseHeader
  split
  next header hparse =>
    split
    · exact .refl
    · unfold receiveParsedHeader
      split
      next hcan =>
        have hmoves : Moves env s (s.processAuthAPDU env apdu header (apdu.drop 2)).1 :=
          moves_processAuthAPDU s (online_of_canTransmit hcan)
        generalize s.processAuthAPDU env apdu header (apdu.drop 2) = result at hmoves ⊢
        obtain ⟨s₁, result⟩ := result
        cases result with
        | discarded => exact hmoves.trans (Quiet.increment env s₁ _).moves
        | processed => exact hmoves
      next hcan =>
        have hkept : Quiet s { s with security := { s.security with
            deferred := s.security.deferred.setASDU header apdu } } :=
          ⟨rfl, .refl _, _, _, _, rfl⟩
        exact hkept.moves
  · exact .refl

/-- What is taken up afterwards is a sequence of moves. -/
theorem moves_checkForTaskStart (s : OAuthContext W) : Moves env s (s.checkForTaskStart env) := by
  unfold checkForTaskStart
  dsimp only
  have hdeferred : Moves env s (if (s.base.canTransmit && s.security.deferred.isSet) = true then
      s.processDeferred env else s) := by
    split
    next hcan =>
      rw [Bool.and_eq_true] at hcan
      have hdone (t : OAuthContext W) : Quiet t { t with security := { t.security with
          deferred := { t.security.deferred with isSet := false } } } :=
        ⟨rfl, .refl _, _, _, _, rfl⟩
      exact (moves_processAuthAPDU s (online_of_canTransmit hcan.1)).trans (hdone _).moves
    · exact .refl
  exact hdeferred.trans (moves_call (.takeUp _ (OContext.takesUp_checkForTaskStart _)))

/-! ## Events -/

/-- Every event is made of moves. -/
theorem moves_step (s : OAuthContext W) (e : Event W) : Moves env s (s.step env e) := by
  cases e with
  | lowerLayerUp =>
    show Moves env s (s.onLowerLayerUp env)
    unfold onLowerLayerUp
    split
    · exact .refl
    · exact (Move.moves .goOnline).trans (moves_checkForTaskStart _)
  | lowerLayerDown =>
    by_cases honline : s.base.isOnline = true
    · exact Move.moves (.goOffline honline)
    · have hsame : s.onLowerLayerDown = s := by
        unfold onLowerLayerDown
        rw [if_neg honline]
      show Moves env s s.onLowerLayerDown
      rw [hsame]
  | sendResult isSuccess =>
    show Moves env s (s.onSendResult env isSuccess)
    unfold onSendResult
    split
    · exact .refl
    · have hdone : Quiet s { s with base := { s.base with isTransmitting := false } } :=
        .of_base ⟨rfl, rfl, rfl, rfl⟩
      exact hdone.moves.trans (moves_checkForTaskStart _)
  | receive fragment =>
    show Moves env s (s.onReceive env fragment)
    unfold onReceive
    split
    · exact (Quiet.increment env s _).moves.trans
        ((moves_parseHeader _ fragment).trans (moves_checkForTaskStart _))
    · exact .refl
  | confirmTimeout =>
    show Moves env s (s.onConfirmTimeout env)
    unfold onConfirmTimeout
    split
    · exact (Quiet.of_base (Rests.expires s.base.expires)).moves.trans (moves_checkForTaskStart _)
    · exact .refl
  | challengeTimeout =>
    show Moves env s (s.onChallengeTimeout env)
    unfold onChallengeTimeout
    split
    · exact .refl
    next timeout htimer =>
      split
      next hwait => exact (Move.moves (.abandon hwait)).trans (Quiet.increment env _ _).moves
      next hwait =>
        refine Move.moves (.dropTimer ?_)
        cases hstate : s.security.state with
        | idle => rfl
        | waitForReply => exact absurd hstate hwait
  | updates updates =>
    exact (Quiet.of_base (Rests.updates s.base updates)).moves.trans (moves_checkForTaskStart _)
  | setRestartIIN =>
    have hset : Rests s.base { s.base with
        staticIIN := s.base.staticIIN.setBit .deviceRestart } := ⟨rfl, rfl, rfl, rfl⟩
    exact (Quiet.of_base hset).moves
  | addUser info => exact Move.moves (.configureUser info)
  | configureAuthority statusChangeSeqNumber key =>
    exact Move.moves (.configureAuthority statusChangeSeqNumber key)
  | elapse milliseconds => exact Move.moves (.elapse milliseconds)
  | surroundings world => exact (Quiet.world s world).moves

end OAuthContext
end Secauth
end Dnp3
