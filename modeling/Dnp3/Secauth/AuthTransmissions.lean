import Dnp3.Outstation.Transmissions
import Dnp3.Secauth.OutstationAuthContext

/-!
# Transmissions of an outstation with secure authentication

The lower layer transmits one fragment at a time, whoever gives it one.  With secure authentication
there are two who do: the plain outstation answers requests and reports events, and secure
authentication sends challenges, errors, key statuses and acknowledgements of its own.  Both use
the flag `isTransmitting` of the plain outstation, and neither looks at it when it begins.

## Why they do not overlap

A request reaches secure authentication only when something can be transmitted, which
`receiveParsedHeader` and `checkForTaskStart` check; it is kept otherwise.  From there on, every
function begins at most one transmission (`Transmits`): either a response of secure authentication,
or, where it hands the request on, what the plain outstation answers.  When the plain outstation
looks for something to do afterwards, it finds the flag set.

So the calls of an event are at most one beginning, behind the result or the loss of the layer that
the event tells of.  The log of secure authentication and that of the plain outstation are two
lists, and their entries are not ordered among each other; it does not matter, since not both have
a call in one event.

## What is not stated

A response of secure authentication is built in a buffer that nothing else uses, and the model
builds it afresh each time.  That this buffer stays while the response is being transmitted is
therefore no statement about the state.  It follows from the above all the same: a response is
built only where a transmission may begin, when no result is awaited.
-/

namespace Dnp3
namespace Secauth

open App Library Master Outstation
open OContext (KeepsTransmission)

/-! ## The lower layer -/

/-- A call between the outstation and the layer below it: one of the plain outstation, or the
beginning of a response of secure authentication. -/
inductive SecureLayerCall where
  | plain (call : LowerLayerCall)
  | beginTransmit (fragment : List UInt8)
  deriving DecidableEq, Repr

/-- What is being transmitted, and who gave it to the lower layer. -/
inductive SecureTransmission where
  | plain (transmission : Transmission)
  | auth (fragment : List UInt8)
  deriving DecidableEq, Repr

/-- A transmission begins only when no result is awaited, whoever begins it. -/
def secureTransmissionObserver : Observer (Option SecureTransmission) SecureLayerCall where
  allows
    | awaited, .plain (.beginTransmit _ _) => awaited = none
    | awaited, .beginTransmit _ => awaited = none
    | _, .plain .sendResult => True
    | _, .plain .layerDown => True
  next
    | _, .plain (.beginTransmit unsolicited fragment) => some (.plain (unsolicited, fragment))
    | _, .plain .sendResult => none
    | _, .plain .layerDown => none
    | _, .beginTransmit fragment => some (.auth fragment)

/-- The fragment that an effect gives to the lower layer. -/
def SecurityEffect.fragment : SecurityEffect → Option (List UInt8)
  | .transmitted fragment => some fragment
  | _ => none

namespace OAuthContext

variable {W : Type} {env : Surroundings W} {s s' s'' : OAuthContext W}

/-! ## What is called -/

/-- The calls that were noted between two states of an outstation. -/
def callsSince (s s' : OAuthContext W) : List SecureLayerCall :=
  ((s'.base.log.drop s.base.log.length).filterMap Effect.lowerLayerCall).map .plain ++
    ((s'.log.drop s.log.length).filterMap SecurityEffect.fragment).map .beginTransmit

/-- Both logs are continued, with these calls in them. -/
structure Calls (s s' : OAuthContext W) (plain : List LowerLayerCall)
    (fragments : List (List UInt8)) : Prop where
  base : ∃ effects, s'.base.log = s.base.log ++ effects ∧
    effects.filterMap Effect.lowerLayerCall = plain
  security : ∃ effects, s'.log = s.log ++ effects ∧
    effects.filterMap SecurityEffect.fragment = fragments

/-- Calls are made one after the other. -/
theorem Calls.trans {plain plain' : List LowerLayerCall} {fragments fragments' : List (List UInt8)}
    (h : Calls s s' plain fragments) (h' : Calls s' s'' plain' fragments') :
    Calls s s'' (plain ++ plain') (fragments ++ fragments') := by
  obtain ⟨⟨effects, hlog, hplain⟩, notes, hnotes, hfragments⟩ := h
  obtain ⟨⟨effects', hlog', hplain'⟩, notes', hnotes', hfragments'⟩ := h'
  refine ⟨⟨effects ++ effects', ?_, ?_⟩, notes ++ notes', ?_, ?_⟩
  · rw [hlog', hlog, List.append_assoc]
  · rw [List.filterMap_append, hplain, hplain']
  · rw [hnotes', hnotes, List.append_assoc]
  · rw [List.filterMap_append, hfragments, hfragments']

theorem Calls.callsSince {plain : List LowerLayerCall} {fragments : List (List UInt8)}
    (h : Calls s s' plain fragments) :
    callsSince s s' = plain.map .plain ++ fragments.map .beginTransmit := by
  obtain ⟨⟨effects, hlog, hplain⟩, notes, hnotes, hfragments⟩ := h
  rw [OAuthContext.callsSince, hlog, hnotes, List.drop_left, List.drop_left, hplain, hfragments]

/-- Nothing is called, and what is being transmitted stays. -/
structure Silent (s s' : OAuthContext W) : Prop where
  calls : Calls s s' [] []
  keeps : KeepsTransmission s.base s'.base

/-- Nothing is called, or one transmission begins: of what is in its buffer then, or of a response
of secure authentication. -/
inductive Transmits (s s' : OAuthContext W) : Prop where
  | silent (h : Silent s s')
  | plain (unsolicited : Bool)
      (hcalls : Calls s s'
        [.beginTransmit unsolicited (s'.base.txBuffer unsolicited).getLastResponse] [])
      (hfree : s.base.isTransmitting = false) (hbusy : s'.base.isTransmitting = true)
  | auth (fragment : List UInt8) (hcalls : Calls s s' [] [fragment])
      (hfree : s.base.isTransmitting = false) (hbusy : s'.base.isTransmitting = true)

namespace Silent

/-- Entries that give nothing to the lower layer are added to the log. -/
theorem noted (notes : List SecurityEffect) (hnotes : s'.log = s.log ++ notes)
    (hfragments : notes.filterMap SecurityEffect.fragment = []) (hlog : s'.base.log = s.base.log)
    (hkeeps : KeepsTransmission s.base s'.base) : Silent s s' :=
  ⟨⟨⟨[], by rw [hlog, List.append_nil], rfl⟩, notes, hnotes, hfragments⟩, hkeeps⟩

/-- The log of secure authentication stays. -/
theorem of_log (hnotes : s'.log = s.log) (hlog : s'.base.log = s.base.log)
    (hkeeps : KeepsTransmission s.base s'.base) : Silent s s' :=
  noted [] (by rw [hnotes, List.append_nil]) rfl hlog hkeeps

theorem refl (s : OAuthContext W) : Silent s s := of_log rfl rfl (.refl _)

theorem trans (h : Silent s s') (h' : Silent s' s'') : Silent s s'' :=
  ⟨h.calls.trans h'.calls, h'.keeps.isTransmitting.trans h.keeps.isTransmitting,
    h'.keeps.sol.trans h.keeps.sol, h'.keeps.unsol.trans h.keeps.unsol⟩

/-- Nothing is being transmitted still. -/
theorem free (h : Silent s s') (hfree : s.base.isTransmitting = false) :
    s'.base.isTransmitting = false := h.keeps.isTransmitting.trans hfree

theorem updatePoint (s : OAuthContext W) (u : DatabaseBuffers.PointUpdate) :
    Silent s { s with base := s.base.updatePoint u } := by
  obtain ⟨effects, hlog, hcalls, hkeeps⟩ := s.base.keepsTransmission_updatePoint u
  exact ⟨⟨⟨effects, hlog, hcalls⟩, [], (List.append_nil _).symm, rfl⟩, hkeeps⟩

theorem updates (s : OAuthContext W) (updates : List DatabaseBuffers.PointUpdate) :
    Silent s { s with base := updates.foldl OContext.updatePoint s.base } := by
  induction updates generalizing s with
  | nil => exact refl s
  | cons u updates ih => exact (updatePoint s u).trans (ih { s with base := s.base.updatePoint u })

variable (env) in
/-- What is counted is the value of a point. -/
theorem increment (s : OAuthContext W) (index : SecurityStatIndex) :
    Silent s (s.increment env index) :=
  (updatePoint s _).trans (of_log rfl rfl ⟨rfl, rfl, rfl⟩)

variable (env) in
theorem startAuthResponse (s : OAuthContext W) (seq : AppSeqNum) :
    Silent s (s.startAuthResponse env seq).1 := of_log rfl rfl ⟨rfl, rfl, rfl⟩

end Silent

namespace Transmits

theorem refl (s : OAuthContext W) : Transmits s s := .silent (.refl s)

/-- A transmission after a transmission is one transmission, as the second one begins only when
nothing is being transmitted. -/
theorem trans (h : Transmits s s') (h' : Transmits s' s'') : Transmits s s'' := by
  cases h with
  | silent h =>
    cases h' with
    | silent h' => exact .silent (h.trans h')
    | plain unsolicited hcalls hfree hbusy =>
      exact .plain unsolicited (h.calls.trans hcalls) (h.keeps.isTransmitting.symm.trans hfree)
        hbusy
    | auth fragment hcalls hfree hbusy =>
      exact .auth fragment (h.calls.trans hcalls) (h.keeps.isTransmitting.symm.trans hfree) hbusy
  | plain unsolicited hcalls hfree hbusy =>
    cases h' with
    | silent h' =>
      refine .plain unsolicited ?_ hfree (h'.keeps.isTransmitting.trans hbusy)
      rw [h'.keeps.txBuffer]
      exact hcalls.trans h'.calls
    | plain _ _ hfree' _ | auth _ _ hfree' _ =>
      rw [hbusy] at hfree'
      cases hfree'
  | auth fragment hcalls hfree hbusy =>
    cases h' with
    | silent h' =>
      exact .auth fragment (hcalls.trans h'.calls) hfree (h'.keeps.isTransmitting.trans hbusy)
    | plain _ _ hfree' _ | auth _ _ hfree' _ =>
      rw [hbusy] at hfree'
      cases hfree'

/-- What is transmitted when only the plain outstation does something. -/
theorem of_base {base : OContext W} (h : OContext.Transmits s.base base) :
    Transmits s { s with base := base } := by
  have hsame : ∃ notes, s.log = s.log ++ notes ∧
      notes.filterMap SecurityEffect.fragment = [] := ⟨[], (List.append_nil _).symm, rfl⟩
  cases h with
  | nothing effects hlog hcalls hkeeps =>
    exact .silent ⟨⟨⟨effects, hlog, hcalls⟩, hsame⟩, hkeeps⟩
  | begins effects unsolicited hlog hcalls hfree hbusy =>
    exact .plain unsolicited ⟨⟨effects, hlog, hcalls⟩, hsame⟩ hfree hbusy

theorem call {f : OContext W → OContext W} (h : OContext.Transmits s.base (f s.base)) :
    Transmits s (s.call env f) := by
  unfold OAuthContext.call
  dsimp only
  split
  · exact (of_base h).trans (.silent (.increment env _ _))
  · exact of_base h

end Transmits

/-! ## Responses -/

/-- A response of secure authentication is sent when nothing is being transmitted. -/
theorem transmits_beginTx (response : APDUResponse) (hfree : s.base.isTransmitting = false) :
    Transmits s (s.beginTx env response) := by
  have hbegin : Transmits s
      ({ s with base := s.base.beginTx }.note (.transmitted response.toRSlice)) :=
    .auth response.toRSlice
      ⟨⟨[], (List.append_nil _).symm, rfl⟩, [.transmitted response.toRSlice], rfl, rfl⟩ hfree rfl
  exact hbegin.trans (.silent (.increment env _ _))

/-- What is done before a response is sent is silent. -/
theorem Silent.beginTx (h : Silent s s') (response : APDUResponse)
    (hfree : s.base.isTransmitting = false) : Transmits s (s'.beginTx env response) :=
  (Transmits.silent h).trans (transmits_beginTx response (h.free hfree))

theorem transmits_unexpected (s : OAuthContext W) : Transmits s (s.unexpected env).1 :=
  .silent (.increment env s _)

theorem transmits_tryRespondWithAuthError (seq : AppSeqNum) (authSeqNum : UInt32) (user : User)
    (code : AuthErrorCode) (hfree : s.base.isTransmitting = false) :
    Transmits s (s.tryRespondWithAuthError env seq authSeqNum user code).1 :=
  ((Silent.startAuthResponse env s seq).trans (.increment env _ _)).beginTx _ hfree

/-- An error may be what a silent function ends with. -/
theorem Silent.tryRespondWithAuthError (h : Silent s s') (seq : AppSeqNum) (authSeqNum : UInt32)
    (user : User) (code : AuthErrorCode) (hfree : s.base.isTransmitting = false) :
    Transmits s (s'.tryRespondWithAuthError env seq authSeqNum user code).1 :=
  (Transmits.silent h).trans
    (transmits_tryRespondWithAuthError seq authSeqNum user code (h.free hfree))

theorem Silent.acknowledge (h : Silent s s') (seq : AppSeqNum)
    (hfree : s.base.isTransmitting = false) : Transmits s (s'.acknowledge env seq).1 :=
  (h.trans (.startAuthResponse env s' seq)).beginTx _ hfree

/-! ## Challenges -/

theorem transmits_processAPDU (s : OAuthContext W) (asdu : List UInt8) (header : APDUHeader) :
    Transmits s (s.processAPDU env asdu header) := by
  have hnoted : Silent s (s.note (.processed asdu header)) :=
    .noted [.processed asdu header] rfl rfl rfl (.refl _)
  exact (Transmits.silent hnoted).trans
    (.call (OContext.transmits_takesFragment (s.base.takesFragment_processAPDU header _)))

/-- What is kept of a challenge, and the numbers that are drawn for it, are none of a
transmission. -/
theorem transmits_transmitChallenge {apdu : List UInt8} {header : APDUHeader} {success : Bool}
    (hfree : s.base.isTransmitting = false)
    (h : s.transmitChallenge env apdu header = (s', success)) : Transmits s s' := by
  unfold transmitChallenge at h
  have hstart := Silent.startAuthResponse env s header.control.SEQ
  generalize s.startAuthResponse env header.control.SEQ = started at hstart h
  obtain ⟨s₁, response⟩ := started
  dsimp only at hstart h
  generalize s₁.security.challenge.writeChallenge env.getSecureRandom s₁.base.world apdu header
    response env.settings.hmacMode.toHMACType = written at h
  obtain ⟨challenge, world, response', written⟩ := written
  dsimp only at h
  have hwritten : Silent s { s₁ with
      base := { s₁.base with world := world }
      security := { s₁.security with challenge := challenge } } :=
    hstart.trans (.of_log rfl rfl ⟨rfl, rfl, rfl⟩)
  cases written with
  | false =>
    cases h
    exact .silent hwritten
  | true =>
    cases h
    exact hwritten.beginTx response' hfree

/-- A function is answered with an error, a challenge or a response, by one of them at most. -/
theorem transmits_processNormalFunction (apdu : List UInt8) (header : APDUHeader)
    (hfree : s.base.isTransmitting = false) :
    Transmits s (s.processNormalFunction env apdu header).1 := by
  unfold processNormalFunction
  dsimp only
  have hcount : Silent s (if env.settings.functions.isCritical header.function = true then
      s.increment env .criticalMessagesRx else s) := by
    split
    · exact .increment env s _
    · exact .refl s
  generalize (if env.settings.functions.isCritical header.function = true then
      s.increment env .criticalMessagesRx else s) = s₁ at hcount ⊢
  refine (Transmits.silent hcount).trans ?_
  split
  · exact transmits_unexpected s₁
  · split
    · exact transmits_processAPDU s₁ apdu header
    · rcases htransmit : s₁.transmitChallenge env apdu header with ⟨s₂, success⟩
      have hsent := transmits_transmitChallenge (hcount.free hfree) htransmit
      cases success with
      | true => exact hsent.trans (.silent (.noted _ rfl rfl rfl (.refl _)))
      | false => exact hsent

/-- The reply to a challenge is answered once at most. -/
theorem transmits_processChallengeReply (header : APDUHeader) (objects : List UInt8)
    (hfree : s.base.isTransmitting = false) :
    Transmits s (s.processChallengeReply env header objects).1 := by
  unfold processChallengeReply
  split
  · exact .refl s
  · split
    · exact .refl s
    next reply hparse =>
      dsimp only
      have hlook : Silent s ((s.endWait (.replied ⟨reply.userNum⟩
          reply.hmacValue)).tryGetSessionKeys ⟨reply.userNum⟩).1 := by
        have hreplied : Silent s (s.endWait (.replied ⟨reply.userNum⟩ reply.hmacValue)) :=
          .noted [.replied ⟨reply.userNum⟩ reply.hmacValue] rfl rfl rfl (.refl _)
        exact hreplied.trans (.noted _ rfl rfl rfl (.refl _))
      generalize (s.endWait (.replied ⟨reply.userNum⟩ reply.hmacValue)).tryGetSessionKeys
        ⟨reply.userNum⟩ = looked at hlook ⊢
      obtain ⟨s₁, keys⟩ := looked
      dsimp only at hlook ⊢
      cases keys with
      | none =>
        have hcount : Silent s₁ s₁.countExpiredKeys := .of_log rfl rfl ⟨rfl, rfl, rfl⟩
        exact ((hlook.trans hcount).trans (.increment env _ _)).tryRespondWithAuthError _ _ _ _
          hfree
      | some keys =>
        dsimp only
        split
        · have hverified : Silent s (s₁.incrementSessionAuthCount env ⟨reply.userNum⟩) :=
            hlook.trans (.noted _ rfl rfl rfl (.refl _))
          split
          · exact (Transmits.silent hverified).trans (transmits_processAPDU _ _ _)
          · exact (hverified.trans (.increment env _ _)).tryRespondWithAuthError _ _ _ _ hfree
        · exact (hlook.trans (.increment env _ _)).tryRespondWithAuthError _ _ _ _ hfree

/-! ## Session keys -/

/-- The status of session keys is the only fragment that is transmitted. -/
theorem Silent.respondWithKeyStatus (h : Silent s s') (seq : AppSeqNum) (user : User)
    (hmacType : HMACType) (keyWrapAlgo : KeyWrapAlgorithm) (status : KeyStatus)
    (hmac : List UInt8) (hfree : s.base.isTransmitting = false) :
    Transmits s (s'.respondWithKeyStatus env seq user hmacType keyWrapAlgo status hmac).1 := by
  unfold OAuthContext.respondWithKeyStatus
  have hstart := h.trans (.startAuthResponse env s' seq)
  generalize s'.startAuthResponse env seq = started at hstart ⊢
  obtain ⟨s₁, response⟩ := started
  dsimp only at hstart ⊢
  have hformat : Silent s (s₁.formatKeyStatusResponse env response user hmacType keyWrapAlgo status
      hmac).1 := hstart.trans (.noted _ rfl rfl rfl ⟨rfl, rfl, rfl⟩)
  generalize s₁.formatKeyStatusResponse env response user hmacType keyWrapAlgo status hmac =
    formatted at hformat ⊢
  obtain ⟨s₂, response', success⟩ := formatted
  cases success with
  | true => exact hformat.beginTx response' hfree
  | false => exact .silent hformat

theorem transmits_processRequestKeyStatus (header : APDUHeader) (objects : List UInt8)
    (hfree : s.base.isTransmitting = false) :
    Transmits s (s.processRequestKeyStatus env header objects).1 := by
  unfold processRequestKeyStatus
  split
  · exact transmits_unexpected s
  · split
    · exact .refl s
    next userNum hparse =>
      dsimp only
      split
      · exact transmits_unexpected s
      · have hstatus : Silent s (s.getSessionKeyStatus ⟨userNum⟩).1 := .of_log rfl rfl (.refl _)
        exact hstatus.respondWithKeyStatus _ _ _ _ _ _ hfree

/-- A change of session keys is answered once at most, by a status or an error. -/
theorem transmits_processChangeSessionKeys (apdu : List UInt8) (header : APDUHeader)
    (objects : List UInt8) (hfree : s.base.isTransmitting = false) :
    Transmits s (s.processChangeSessionKeys env apdu header objects).1 := by
  unfold processChangeSessionKeys
  split
  · exact transmits_unexpected s
  · split
    · exact transmits_unexpected s
    next change hparse =>
      have hrefuse (code : AuthErrorCode) : Transmits s (s.tryRespondWithAuthError env
          header.control.SEQ change.keyChangeSeqNum ⟨change.userNum⟩ code).1 :=
        transmits_tryRespondWithAuthError _ _ _ _ hfree
      dsimp only
      split
      · exact hrefuse _
      · split
        · exact hrefuse _
        · split
          · exact hrefuse _
          next keys keyStatusObject hunwrap =>
            split
            · exact hrefuse _
            · split
              · exact .refl s
              next hmac hcompute =>
                have hset : Silent s (s.setSessionKeys env change ⟨change.userNum⟩ keys) :=
                  .noted _ rfl rfl rfl (.refl _)
                exact hset.respondWithKeyStatus _ _ _ _ _ _ hfree

/-! ## Changes of users -/

/-- A change that is accepted is answered later. -/
theorem transmits_authenticateUserStatusChange (header : APDUHeader) (change : Group120Var10)
    (hfree : s.base.isTransmitting = false) :
    (s.authenticateUserStatusChange env header change).2 = false ∧
        Transmits s (s.authenticateUserStatusChange env header change).1 ∨
      Silent s (s.authenticateUserStatusChange env header change).1 := by
  have hrefuse (code : AuthErrorCode) : Transmits s (s.tryRespondWithAuthError env
      header.control.SEQ change.statusChangeSeqNum .unknown code).1 :=
    transmits_tryRespondWithAuthError _ _ _ _ hfree
  unfold authenticateUserStatusChange
  dsimp only
  split
  · exact .inl ⟨rfl, hrefuse .updateKeyMethodNotPermitted⟩
  · split
    · exact .inl ⟨rfl, .refl s⟩
    · split
      · exact .inl ⟨rfl, (hrefuse .invalidCertificationData).trans (.silent (.increment env _ _))⟩
      · split
        · have hcount (t : OAuthContext W) : Silent t t.countBadSeqNum := .of_log rfl rfl (.refl _)
          exact .inl ⟨rfl, (hrefuse .invalidCertificationData).trans (.silent (hcount _))⟩
        · exact .inr (.noted [.statusChanged change] rfl rfl rfl ⟨rfl, rfl, rfl⟩)

theorem Silent.queueUserStatusChange (h : Silent s s') (header : APDUHeader) (username : String)
    (change : Group120Var10) (hfree : s.base.isTransmitting = false) :
    Transmits s (s'.queueUserStatusChange env header username change).1 := by
  have hqueued : Silent s' (s'.queueChange username (changeData s'.base.now change)) :=
    .noted _ rfl rfl rfl (.refl _)
  exact (h.trans hqueued).acknowledge _ hfree

/-- A change of a user is answered once at most. -/
theorem transmits_processUserStatusChange (header : APDUHeader) (objects : List UInt8)
    (hfree : s.base.isTransmitting = false) :
    Transmits s (s.processUserStatusChange env header objects).1 := by
  unfold processUserStatusChange
  split
  · exact transmits_unexpected s
  · split
    · exact transmits_unexpected s
    next change hparse =>
      have hauthenticate := @transmits_authenticateUserStatusChange W env s header change hfree
      generalize s.authenticateUserStatusChange env header change = result at hauthenticate ⊢
      obtain ⟨s₁, authentic⟩ := result
      dsimp only at hauthenticate ⊢
      rcases hauthenticate with ⟨rfl, hrefused⟩ | haccepted
      · exact hrefused
      · have hrefuse (code : AuthErrorCode) : Transmits s (s₁.tryRespondWithAuthError env
            header.control.SEQ change.statusChangeSeqNum .unknown code).1 :=
          haccepted.tryRespondWithAuthError _ _ _ _ hfree
        split
        · exact .silent haccepted
        · split
          · exact hrefuse _
          · cases change.userOperation with
            | opAdd => exact haccepted.queueUserStatusChange _ _ _ hfree
            | opChange =>
              dsimp only
              unfold processUserStatusChangeChange
              split
              · exact hrefuse _
              · exact haccepted.queueUserStatusChange _ _ _ hfree
            | opDelete =>
              dsimp only
              unfold processUserStatusChangeDelete
              split
              next userDB user hdelete =>
                have hdeleted : Silent s₁
                    (s₁.deleteUser env userDB (toString change.userName) user) :=
                  .noted _ rfl rfl rfl ⟨rfl, rfl, rfl⟩
                exact (haccepted.trans hdeleted).acknowledge _ hfree
              next => exact hrefuse _
            | opUndefined => exact .silent haccepted

/-! ## Update keys -/

theorem silent_writeUpdateKeyChangeResposne {response response' : APDUResponse} {ksq : UInt32}
    {username : String} {masterChallengeData : List UInt8} {success : Bool}
    (h : s.writeUpdateKeyChangeResposne env response ksq username masterChallengeData =
      (s', response', success)) : Silent s s' := by
  unfold writeUpdateKeyChangeResposne at h
  rcases hwrite : s.security.updateKeyChangeState.writeUpdateKeyChangeResposne
    env.getSecureRandom s.base.world response.getWriter ksq username masterChallengeData
    s.security.userDB with ⟨state, world, writer, success'⟩
  rw [hwrite] at h
  dsimp only at h
  cases success' with
  | false =>
    cases h
    exact .of_log rfl rfl ⟨rfl, rfl, rfl⟩
  | true =>
    cases h
    exact .noted [.updateKeyBegun state.data] rfl rfl rfl ⟨rfl, rfl, rfl⟩

theorem transmits_processBeginUpdateKeyChange (header : APDUHeader) (objects : List UInt8)
    (hfree : s.base.isTransmitting = false) :
    Transmits s (s.processBeginUpdateKeyChange env header objects).1 := by
  unfold processBeginUpdateKeyChange
  split
  · exact transmits_unexpected s
  next request hparse =>
    split
    · exact transmits_tryRespondWithAuthError _ _ _ _ hfree
    · dsimp only
      split
      · exact transmits_tryRespondWithAuthError _ _ _ _ hfree
      · have hstart := Silent.startAuthResponse env s header.control.SEQ
        generalize s.startAuthResponse env header.control.SEQ = started at hstart ⊢
        obtain ⟨s₁, response⟩ := started
        dsimp only at hstart ⊢
        rcases hwrite : s₁.writeUpdateKeyChangeResposne env response 0 (toString request.userName)
          request.challengeData with ⟨s₂, response', success⟩
        have hwritten := hstart.trans (silent_writeUpdateKeyChangeResposne hwrite)
        cases success with
        | true => exact hwritten.beginTx response' hfree
        | false => exact .silent hwritten

/-- A user is stored and acknowledged, or the request is refused and counted. -/
theorem Silent.finishUserChange (h : Silent s s') (seq : AppSeqNum)
    (handler : FinishUpdateKeyChangeHandler) (verification : VerificationData)
    (updateKey : UpdateKey) (hfree : s.base.isTransmitting = false) :
    Transmits s (s'.finishUserChange env seq handler verification updateKey).1 := by
  have hrefuse {t : OAuthContext W} (ht : Silent s t) : Transmits s
      ((t.tryRespondWithAuthError env seq handler.keyChange.keyChangeSeqNum
        ⟨handler.keyChange.userNum⟩ .unknownUser).1.unexpected env).1 :=
    (ht.tryRespondWithAuthError _ _ _ _ hfree).trans (transmits_unexpected _)
  unfold OAuthContext.finishUserChange
  dsimp only
  split
  · exact hrefuse h
  next statusChanges userChangeData hpop =>
    have htaken : Silent s { s' with
        security := { s'.security with statusChanges := statusChanges } } :=
      h.trans (.of_log rfl rfl (.refl _))
    split
    · exact hrefuse htaken
    · split
      · exact .silent htaken
      next hmacResponse hcompute =>
        refine Silent.beginTx (h.trans ?_) _ hfree
        exact .noted [.updateKeyVerified handler.keyChange handler.authData s'.base.now _,
          .userStored _, .sessionKeys (.invalidated _)]
          (List.append_assoc _ _ _) rfl rfl ⟨rfl, rfl, rfl⟩

/-- The end of a key change is answered once at most. -/
theorem transmits_processFinishUpdateKeyChange (header : APDUHeader) (objects : List UInt8)
    (hfree : s.base.isTransmitting = false) :
    Transmits s (s.processFinishUpdateKeyChange env header objects).1 := by
  unfold processFinishUpdateKeyChange
  split
  · exact transmits_unexpected s
  next handler hparse =>
    have hrefuse {t : OAuthContext W} (ht : Silent s t) (code : AuthErrorCode) :
        Transmits s (t.tryRespondWithAuthError env header.control.SEQ
          handler.keyChange.keyChangeSeqNum ⟨handler.keyChange.userNum⟩ code).1 :=
      ht.tryRespondWithAuthError _ _ _ _ hfree
    dsimp only
    split
    · exact (hrefuse (.refl s) _).trans (transmits_unexpected _)
    · have hverify : Silent s (s.verifyUserAndKSQ handler.keyChange.keyChangeSeqNum
          ⟨handler.keyChange.userNum⟩).1 := .of_log rfl rfl (.refl _)
      generalize s.verifyUserAndKSQ handler.keyChange.keyChangeSeqNum
        ⟨handler.keyChange.userNum⟩ = result at hverify ⊢
      obtain ⟨s₁, verification⟩ := result
      dsimp only at hverify ⊢
      split
      · exact (hrefuse hverify _).trans (transmits_unexpected _)
      next verification _ =>
        split
        · dsimp only
          exact hrefuse hverify _
        next authorityKey hauthority =>
          split
          · dsimp only
            exact hrefuse hverify _
          next updateKey hdecrypt =>
            split
            · dsimp only
              exact hrefuse hverify _
            · split
              · dsimp only
                exact hrefuse hverify _
              · exact hverify.finishUserChange _ _ _ _ hfree

/-! ## Requests -/

/-- Every request of secure authentication is answered once at most. -/
theorem transmits_processAuthAPDU (apdu : List UInt8) (header : APDUHeader)
    (objects : List UInt8) (hfree : s.base.isTransmitting = false) :
    Transmits s (s.processAuthAPDU env apdu header objects).1 := by
  unfold processAuthAPDU
  split
  · unfold processAuthRequest
    split
    · exact .refl s
    · split
      · exact transmits_processChallengeReply header objects hfree
      · exact transmits_processRequestKeyStatus header objects hfree
      · exact transmits_processChangeSessionKeys apdu header objects hfree
      · exact transmits_processUserStatusChange header objects hfree
      · exact transmits_processBeginUpdateKeyChange header objects hfree
      · exact transmits_processFinishUpdateKeyChange header objects hfree
      · exact .refl s
  · exact .refl s
  · exact .refl s
  · exact transmits_processNormalFunction apdu header hfree

/-- While something is being transmitted, a request is kept. -/
theorem transmits_parseHeader (s : OAuthContext W) (apdu : List UInt8) :
    Transmits s (s.parseHeader env apdu) := by
  unfold parseHeader
  split
  next header hparse =>
    split
    · exact .refl s
    · unfold receiveParsedHeader
      split
      next hcan =>
        have hprocess : Transmits s (s.processAuthAPDU env apdu header (apdu.drop 2)).1 :=
          transmits_processAuthAPDU apdu header _ (OContext.isTransmitting_of_canTransmit hcan)
        generalize s.processAuthAPDU env apdu header (apdu.drop 2) = result at hprocess ⊢
        obtain ⟨s₁, result⟩ := result
        cases result with
        | discarded => exact hprocess.trans (.silent (.increment env s₁ _))
        | processed => exact hprocess
      next => exact .silent (.of_log rfl rfl (.refl _))
  · exact .refl s

/-- The request that was kept is taken up when nothing is being transmitted, and the plain
outstation finds something being transmitted if it was answered. -/
theorem transmits_checkForTaskStart (s : OAuthContext W) :
    Transmits s (s.checkForTaskStart env) := by
  unfold checkForTaskStart
  dsimp only
  have hdeferred : Transmits s (if (s.base.canTransmit && s.security.deferred.isSet) = true then
      s.processDeferred env else s) := by
    split
    next hcan =>
      rw [Bool.and_eq_true] at hcan
      have hdone (t : OAuthContext W) : Silent t { t with security := { t.security with
          deferred := { t.security.deferred with isSet := false } } } := .of_log rfl rfl (.refl _)
      exact (transmits_processAuthAPDU _ _ _
        (OContext.isTransmitting_of_canTransmit hcan.1)).trans (.silent (hdone _))
    · exact .refl s
  exact hdeferred.trans (.call (OContext.transmits_checkForTaskStart _))

/-! ## The calls of a run -/

variable (env) in
/-- The calls of an event.  A result that is waited for comes in before anything else is done. -/
def layerCalls (s : OAuthContext W) (e : Event W) : List SecureLayerCall :=
  (match e with
    | .sendResult _ =>
      if s.base.isOnline && s.base.isTransmitting then [.plain .sendResult] else []
    | _ => []) ++ callsSince s (s.step env e)

end OAuthContext

/-- An outstation with secure authentication, and its calls so far. -/
structure SecureTransmitter (W : Type) where
  outstation : OAuthContext W
  calls : List SecureLayerCall

namespace SecureTransmitter

open OAuthContext (Silent Transmits callsSince)

variable {W : Type} {env : Surroundings W}

/-- What is being transmitted, as the lower layer has been told. -/
def awaited (t : SecureTransmitter W) : Option SecureTransmission :=
  secureTransmissionObserver.after none t.calls

variable (env) in
/-- An event takes place, and its calls are added. -/
def step (t : SecureTransmitter W) (e : OAuthContext.Event W) : SecureTransmitter W where
  outstation := t.outstation.step env e
  calls := t.calls ++ t.outstation.layerCalls env e

/-- Keeping the calls does not change what the outstation does. -/
theorem outstation_run (t : SecureTransmitter W) (events : List (OAuthContext.Event W)) :
    (run (step env) t events).outstation = run (OAuthContext.step env) t.outstation events := by
  induction events generalizing t with
  | nil => rfl
  | cons e events ih =>
    rw [run_cons, run_cons, ih]
    rfl

/-- No transmission began before the result of the one before it, and what the plain outstation
transmits is what the lower layer was given. -/
structure Orderly (t : SecureTransmitter W) : Prop where
  accepts : secureTransmissionObserver.Accepts none t.calls
  busy : t.outstation.base.isTransmitting = t.awaited.isSome
  unchanged : ∀ unsolicited fragment, t.awaited = some (.plain (unsolicited, fragment)) →
    (t.outstation.base.txBuffer unsolicited).getLastResponse = fragment

/-- One call that the observer allows. -/
theorem Orderly.call {t : SecureTransmitter W} {s' : OAuthContext W} (h : t.Orderly)
    {c : SecureLayerCall} (hallows : secureTransmissionObserver.allows t.awaited c)
    (hbusy : s'.base.isTransmitting = (secureTransmissionObserver.next t.awaited c).isSome)
    (hunchanged : ∀ unsolicited fragment,
      secureTransmissionObserver.next t.awaited c = some (.plain (unsolicited, fragment)) →
      (s'.base.txBuffer unsolicited).getLastResponse = fragment) :
    Orderly ⟨s', t.calls ++ [c]⟩ := by
  have hafter : secureTransmissionObserver.after none (t.calls ++ [c]) =
      secureTransmissionObserver.next t.awaited c :=
    secureTransmissionObserver.after_concat none t.calls c
  refine ⟨secureTransmissionObserver.accepts_concat h.accepts hallows, ?_, ?_⟩
  · rw [awaited, hafter]
    exact hbusy
  · rintro unsolicited fragment hawaited
    rw [awaited, hafter] at hawaited
    exact hunchanged unsolicited fragment hawaited

/-- No result is awaited when nothing is being transmitted. -/
theorem Orderly.awaited_of_free {t : SecureTransmitter W} (h : t.Orderly)
    (hfree : t.outstation.base.isTransmitting = false) : t.awaited = none := by
  rw [← Option.not_isSome_iff_eq_none, ← h.busy, hfree]
  exact Bool.false_ne_true

/-- Calls that are made while the outstation goes from one state to the next. -/
theorem Orderly.calls {t : SecureTransmitter W} {s' : OAuthContext W} (h : t.Orderly)
    (htransmits : Transmits t.outstation s') :
    Orderly ⟨s', t.calls ++ callsSince t.outstation s'⟩ := by
  cases htransmits with
  | silent hsilent =>
    rw [hsilent.calls.callsSince]
    refine ⟨?_, ?_, ?_⟩
    · simpa using h.accepts
    · rw [awaited, List.map_nil, List.map_nil, List.append_nil, List.append_nil]
      exact hsilent.keeps.isTransmitting.trans h.busy
    · rw [awaited, List.map_nil, List.map_nil, List.append_nil, List.append_nil]
      intro unsolicited fragment hawaited
      rw [hsilent.keeps.txBuffer]
      exact h.unchanged unsolicited fragment hawaited
  | plain unsolicited hcalls hfree hbusy =>
    rw [hcalls.callsSince]
    refine h.call (h.awaited_of_free hfree) hbusy ?_
    rintro unsolicited' fragment hawaited
    cases hawaited
    rfl
  | auth fragment hcalls hfree hbusy =>
    rw [hcalls.callsSince]
    refine h.call (h.awaited_of_free hfree) hbusy ?_
    rintro unsolicited' fragment' hawaited
    cases hawaited

/-- The result comes in. -/
theorem Orderly.sendResult {t : SecureTransmitter W} (h : t.Orderly) :
    Orderly ⟨{ t.outstation with base := { t.outstation.base with isTransmitting := false } },
      t.calls ++ [.plain .sendResult]⟩ := by
  refine h.call trivial rfl ?_
  rintro unsolicited fragment hawaited
  cases hawaited

/-- The layer goes down, and the transmission with it. -/
theorem Orderly.onLowerLayerDown {t : SecureTransmitter W} (h : t.Orderly) :
    Orderly ⟨t.outstation.onLowerLayerDown,
      t.calls ++ callsSince t.outstation t.outstation.onLowerLayerDown⟩ := by
  by_cases honline : t.outstation.base.isOnline = true
  · have hdown : OAuthContext.Calls t.outstation t.outstation.onLowerLayerDown [.layerDown] [] := by
      unfold OAuthContext.onLowerLayerDown OContext.onLowerLayerDown
      rw [if_pos honline, if_pos honline]
      exact ⟨⟨[.layerDown], rfl, rfl⟩, [.abandoned, .sessionKeys .cleared], rfl, rfl⟩
    have hfree : t.outstation.onLowerLayerDown.base.isTransmitting = false := by
      unfold OAuthContext.onLowerLayerDown OContext.onLowerLayerDown
      rw [if_pos honline, if_pos honline]
      rfl
    rw [hdown.callsSince]
    refine h.call trivial hfree ?_
    rintro unsolicited fragment hawaited
    cases hawaited
  · have hsame : t.outstation.onLowerLayerDown = t.outstation := by
      unfold OAuthContext.onLowerLayerDown
      rw [if_neg honline]
    rw [hsame]
    exact h.calls (.refl _)

/-- Every event keeps the order. -/
theorem Orderly.step {t : SecureTransmitter W} (h : t.Orderly) (e : OAuthContext.Event W) :
    (t.step env e).Orderly := by
  cases e with
  | lowerLayerUp =>
    refine h.calls ?_
    show Transmits t.outstation (t.outstation.onLowerLayerUp env)
    unfold OAuthContext.onLowerLayerUp
    split
    · exact .refl _
    · have honline : Silent t.outstation
          { t.outstation with base := { t.outstation.base with isOnline := true } } :=
        .of_log rfl rfl ⟨rfl, rfl, rfl⟩
      exact (Transmits.silent honline).trans (OAuthContext.transmits_checkForTaskStart _)
  | lowerLayerDown => exact h.onLowerLayerDown
  | sendResult isSuccess =>
    show Orderly ⟨t.outstation.onSendResult env isSuccess, t.calls ++ ((if
      (t.outstation.base.isOnline && t.outstation.base.isTransmitting) = true then
        [SecureLayerCall.plain .sendResult] else []) ++
          callsSince t.outstation (t.outstation.onSendResult env isSuccess))⟩
    unfold OAuthContext.onSendResult
    by_cases hwaits : (t.outstation.base.isOnline && t.outstation.base.isTransmitting) = true
    · rw [if_pos hwaits, ← Bool.not_and, hwaits, Bool.not_true, if_neg Bool.false_ne_true,
        ← List.append_assoc]
      exact h.sendResult.calls (OAuthContext.transmits_checkForTaskStart _)
    · rw [if_neg hwaits, ← Bool.not_and, Bool.eq_false_iff.mpr hwaits, Bool.not_false, if_pos rfl,
        List.nil_append]
      exact h.calls (.refl _)
  | receive fragment =>
    refine h.calls ?_
    show Transmits t.outstation (t.outstation.onReceive env fragment)
    unfold OAuthContext.onReceive
    split
    · exact (Transmits.silent (.increment env t.outstation _)).trans
        ((OAuthContext.transmits_parseHeader _ fragment).trans
          (OAuthContext.transmits_checkForTaskStart _))
    · exact .refl _
  | confirmTimeout =>
    refine h.calls ?_
    show Transmits t.outstation (t.outstation.onConfirmTimeout env)
    unfold OAuthContext.onConfirmTimeout
    split
    · exact (Transmits.of_base (OContext.transmits_expires t.outstation.base.expires)).trans
        (OAuthContext.transmits_checkForTaskStart _)
    · exact .refl _
  | challengeTimeout =>
    refine h.calls (.silent ?_)
    show Silent t.outstation (t.outstation.onChallengeTimeout env)
    unfold OAuthContext.onChallengeTimeout
    split
    · exact .refl _
    · split
      · have habandoned : Silent t.outstation (t.outstation.endWait .abandoned) :=
          .noted [.abandoned] rfl rfl rfl (.refl _)
        exact habandoned.trans (.increment env _ _)
      · exact .of_log rfl rfl (.refl _)
  | updates updates =>
    exact h.calls ((Transmits.silent (.updates t.outstation updates)).trans
      (OAuthContext.transmits_checkForTaskStart _))
  | setRestartIIN => exact h.calls (.silent (.of_log rfl rfl ⟨rfl, rfl, rfl⟩))
  | addUser info =>
    exact h.calls (.silent (.noted [.userConfigured info, .userStored info,
      .sessionKeys (.invalidated info.user)] (List.append_assoc _ _ _) rfl rfl (.refl _)))
  | configureAuthority statusChangeSeqNumber key =>
    exact h.calls (.silent (.noted [.authorityConfigured statusChangeSeqNumber key] rfl rfl rfl
      (.refl _)))
  | elapse milliseconds => exact h.calls (.silent (.of_log rfl rfl ⟨rfl, rfl, rfl⟩))
  | surroundings world => exact h.calls (.silent (.of_log rfl rfl ⟨rfl, rfl, rfl⟩))

/-- An outstation that has made no calls. -/
def initial (env : Surroundings W) (world : W) (now : Int) (config : EventBufferConfig)
    (database : DatabaseBuffers) (params : OutstationParams) : SecureTransmitter W where
  outstation := .initial (.initial world now config database params) env.settings
  calls := []

/-- In every run of an outstation with secure authentication, no transmission has begun while the
result of another one was awaited, whichever of the two began it: the calls tell of at most one
transmission at a time, the outstation takes itself to be transmitting exactly while a result is
awaited, and what the plain outstation transmits stays in its buffer until then. -/
theorem secure_transmissions_never_overlap (env : Surroundings W) (world : W) (now : Int)
    (config : EventBufferConfig) (database : DatabaseBuffers) (params : OutstationParams)
    (events : List (OAuthContext.Event W)) :
    (run (step env) (initial env world now config database params) events).outstation =
        run (OAuthContext.step env)
          (.initial (.initial world now config database params) env.settings) events ∧
      Always (step env) Orderly (initial env world now config database params) events := by
  have hinitial : (initial env world now config database params).Orderly :=
    ⟨trivial, rfl, fun _ _ hawaited => by cases hawaited⟩
  exact ⟨outstation_run _ events, always_keeps (fun t e h => h.step e) events hinitial⟩

end SecureTransmitter
end Secauth
end Dnp3
