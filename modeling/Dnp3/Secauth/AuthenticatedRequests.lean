import Dnp3.Secauth.CertifiedUsers

/-!
# Critical requests are authenticated

An auditor reads the log of an outstation.  The auditor knows the users from what was stored and
deleted, the last challenge from what was sent, and the last reply from what came in.  A critical
request may be processed only if it is the one the last challenge was sent for, if the reply is the
code of challenge and request under the session key of a user, and if this user is permitted to ask
for it; and there is no second reply to a challenge.  Other requests are processed only while no
reply is waited for.

The plain outstation may keep a request that it is given for later.  Still, whatever it answers was
processed in that sense before.
-/

namespace Dnp3
namespace Secauth

open App Library Master Outstation
open OContext (Rests Serves TakesUp)

/-! ## The auditor -/

/-- What the auditor knows. -/
structure RequestBooks where
  users : UInt16 → Option OutstationUserInfo
  /-- The fragment that was transmitted last. -/
  sent : Option (List UInt8)
  /-- The last challenge, with the request it was sent for. -/
  challenge : Option (List UInt8 × List UInt8 × APDUHeader)
  reply : Option (User × List UInt8)
  /-- The session keys that the reply is checked with. -/
  returned : Option (User × SessionKeysView)

namespace RequestBooks

/-- Nothing was stored, sent or received. -/
def initial : RequestBooks where
  users _ := none
  sent := none
  challenge := none
  reply := none
  returned := none

/-- There is a challenge without a reply. -/
def waiting (books : RequestBooks) : Bool := books.challenge.isSome && books.reply.isNone

/-- The challenge is done with. -/
def close (books : RequestBooks) : RequestBooks :=
  { books with challenge := none, reply := none, returned := none }

variable {W : Type}

/-- A user has shown to be the one who asks for the request, and is permitted to. -/
def Justifies (crypto : CryptoProvider W) (mode : HMACMode) (books : RequestBooks)
    (asdu : List UInt8) (header : APDUHeader) : Prop :=
  ∃ user hmacValue fragment keys info,
    books.challenge = some (fragment, asdu, header) ∧
    books.reply = some (user, hmacValue) ∧
    books.returned = some (user, keys) ∧
    HMACProvider.compute crypto mode keys.controlKey [fragment, asdu] = some hmacValue ∧
    books.users user.id = some info ∧ info.permissions.isAllowed header.function = true

/-- The books with one more entry read, but for the users. -/
def read (books : RequestBooks) : SecurityEffect → RequestBooks
  | .transmitted fragment => { books with sent := some fragment }
  | .challenged fragment asdu header =>
    { books with challenge := some (fragment, asdu, header), reply := none, returned := none }
  | .replied user hmacValue => { books with reply := some (user, hmacValue), returned := none }
  | .abandoned => books.close
  | .processed _ _ => books.close
  | .sessionKeys (.returned user keys _) => { books with returned := some (user, keys) }
  | .sessionKeys (.refused _) => { books with returned := none }
  | _ => books

end RequestBooks

/-- The auditor of the requests that are processed. -/
def requestLedger {W : Type} (crypto : CryptoProvider W) (settings : OutstationAuthSettings) :
    Observer RequestBooks SecurityEffect where
  allows books
    | .challenged fragment _ header =>
      books.sent = some fragment ∧ settings.functions.isCritical header.function = true
    | .replied _ _ => books.waiting = true
    | .processed asdu header =>
      settings.functions.isCritical header.function = false ∧ books.waiting = false ∨
        books.Justifies crypto settings.hmacMode asdu header
    | _ => True
  next books e := { books.read e with users := registered books.users e }

/-- The entry has nothing to do with challenges. -/
def SecurityEffect.isAside : SecurityEffect → Bool
  | .challenged .. => false
  | .replied .. => false
  | .abandoned => false
  | .processed .. => false
  | _ => true

namespace OAuthContext

variable {W : Type} {env : Surroundings W} {s s' : OAuthContext W}

/-- What the auditor knows of an outstation. -/
def requestBooks (env : Surroundings W) (log : List SecurityEffect) : RequestBooks :=
  (requestLedger env.toCryptoProvider env.settings).after .initial log

theorem users_requestBooks (log : List SecurityEffect) :
    (requestBooks env log).users = usersOf log := by
  induction log using List.reverseRecOn with
  | nil => rfl
  | append_singleton log e ih =>
    rw [usersOf_append, ← ih]
    unfold requestBooks
    rw [Observer.after_concat]
    rfl

/-- Entries that have nothing to do with challenges are allowed, and leave the challenge alone. -/
theorem requestLedger_aside {crypto : CryptoProvider W} {settings : OutstationAuthSettings}
    {books : RequestBooks} {entries : List SecurityEffect}
    (h : ∀ e ∈ entries, e.isAside = true) :
    (requestLedger crypto settings).Accepts books entries ∧
      ((requestLedger crypto settings).after books entries).challenge = books.challenge ∧
      ((requestLedger crypto settings).after books entries).reply = books.reply := by
  induction entries generalizing books with
  | nil => exact ⟨trivial, rfl, rfl⟩
  | cons e entries ih =>
    have hentry : (requestLedger crypto settings).allows books e ∧
        ((requestLedger crypto settings).next books e).challenge = books.challenge ∧
        ((requestLedger crypto settings).next books e).reply = books.reply := by
      have haside := h e List.mem_cons_self
      cases e with
      | challenged | replied | abandoned | processed => cases haside
      | sessionKeys note => cases note <;> exact ⟨trivial, rfl, rfl⟩
      | _ => exact ⟨trivial, rfl, rfl⟩
    obtain ⟨haccepts, hchallenge, hreply⟩ := @ih
      ((requestLedger crypto settings).next books e) fun e' he' => h e' (List.mem_cons_of_mem e he')
    exact ⟨⟨hentry.1, haccepts⟩, hchallenge.trans hentry.2.1, hreply.trans hentry.2.2⟩

/-- The auditor accepts, and knows whether a reply is waited for, and for which challenge. -/
structure Audited (env : Surroundings W) (s : OAuthContext W) : Prop where
  accepts : (requestLedger env.toCryptoProvider env.settings).Accepts .initial s.log
  idle : s.security.state = .idle → (requestBooks env s.log).waiting = false
  waiting : s.security.state = .waitForReply →
    (requestBooks env s.log).challenge = some (s.security.challenge.challengeFragment,
      s.security.challenge.criticalASDU.asdu, s.security.challenge.criticalASDU.header) ∧
    (requestBooks env s.log).reply = none

/-- The keys that are looked up are noted. -/
theorem log_tryGetSessionKeys {user : User} {keys : SessionKeysView}
    (h : (s.tryGetSessionKeys user).2 = some keys) :
    (s.tryGetSessionKeys user).1.log =
      s.log ++ [.sessionKeys (.returned user keys s.base.now)] := by
  unfold tryGetSessionKeys at h ⊢
  dsimp only at h ⊢
  rw [h]

namespace Audited

theorem aside (h : Audited env s) {entries : List SecurityEffect}
    (hlog : s'.log = s.log ++ entries) (hentries : ∀ e ∈ entries, e.isAside = true)
    (hstate : s'.security.state = s.security.state)
    (hchallenge : s.security.state = .waitForReply →
      s'.security.challenge = s.security.challenge) : Audited env s' := by
  obtain ⟨haccepts, hsame, hreply⟩ := @requestLedger_aside W env.toCryptoProvider env.settings
    (requestBooks env s.log) entries hentries
  have hbooks : requestBooks env s'.log =
      (requestLedger env.toCryptoProvider env.settings).after (requestBooks env s.log) entries := by
    unfold requestBooks
    rw [hlog, Observer.after_append]
  constructor
  · rw [hlog, Observer.accepts_append]
    exact ⟨h.accepts, haccepts⟩
  · intro hidle
    rw [hbooks, RequestBooks.waiting, hsame, hreply]
    exact h.idle (hstate.symm.trans hidle)
  · intro hwait
    rw [hbooks, hsame, hreply, hchallenge (hstate.symm.trans hwait)]
    exact h.waiting (hstate.symm.trans hwait)

/-- Nothing is added to the log. -/
theorem same (h : Audited env s) (hlog : s'.log = s.log)
    (hstate : s'.security.state = s.security.state)
    (hchallenge : s.security.state = .waitForReply →
      s'.security.challenge = s.security.challenge) : Audited env s' :=
  h.aside (hlog.trans (List.append_nil _).symm) (fun _ he => by cases he) hstate hchallenge

/-- One entry is added that has nothing to do with challenges. -/
theorem note (h : Audited env s) {e : SecurityEffect} (hlog : s'.log = s.log ++ [e])
    (he : e.isAside = true) (hsecurity : s'.security.state = s.security.state ∧
      s'.security.challenge = s.security.challenge) : Audited env s' :=
  h.aside hlog (fun e' he' => by rw [List.mem_singleton.mp he']; exact he) hsecurity.1
    fun _ => hsecurity.2

/-- Two of them. -/
theorem note₂ (h : Audited env s) {e e' : SecurityEffect} (hlog : s'.log = s.log ++ [e, e'])
    (he : e.isAside = true) (he' : e'.isAside = true)
    (hsecurity : s'.security.state = s.security.state ∧
      s'.security.challenge = s.security.challenge) : Audited env s' :=
  h.aside hlog (by simp [he, he']) hsecurity.1 fun _ => hsecurity.2

/-- An entry that ends a challenge, and leads back to the idle state. -/
theorem ended (h : Audited env s) {e : SecurityEffect} (hlog : s'.log = s.log ++ [e])
    (hallows : (requestLedger env.toCryptoProvider env.settings).allows
      (requestBooks env s.log) e)
    (hended : ((requestBooks env s.log).read e).waiting = false)
    (hidle : s'.security.state = .idle) : Audited env s' := by
  constructor
  · rw [hlog]
    exact Observer.accepts_concat _ h.accepts hallows
  · intro _
    unfold requestBooks
    rw [hlog, Observer.after_concat]
    exact hended
  · intro hwait
    rw [hidle] at hwait
    cases hwait

theorem awaitReply (h : Audited env s)
    (hsent : ∃ log, s.log = log ++ [.transmitted s.security.challenge.challengeFragment])
    (hcritical : env.settings.functions.isCritical
      s.security.challenge.criticalASDU.header.function = true) :
    Audited env (s.awaitReply env) := by
  obtain ⟨log, hlog⟩ := hsent
  have hlast : (requestBooks env s.log).sent = some s.security.challenge.challengeFragment := by
    unfold requestBooks
    rw [hlog, Observer.after_concat]
    rfl
  have hbooks : requestBooks env (s.awaitReply env).log =
      (requestLedger env.toCryptoProvider env.settings).next (requestBooks env s.log)
        (.challenged s.security.challenge.challengeFragment
          s.security.challenge.criticalASDU.asdu s.security.challenge.criticalASDU.header) :=
    Observer.after_concat _ _ _ _
  constructor
  · exact Observer.accepts_concat _ h.accepts ⟨hlast, hcritical⟩
  · intro hidle
    cases hidle
  · intro _
    rw [hbooks]
    exact ⟨rfl, rfl⟩

/-- The reply, the keys it was checked with, and the request that is processed. -/
theorem authenticate (h : Audited env s) (hregistered : Registered s) {user : User}
    {hmacValue : List UInt8} {keys : SessionKeysView}
    (hauthentic : Authentic env s user hmacValue keys) :
    Audited env ((((s.endWait (.replied user hmacValue)).tryGetSessionKeys
      user).1.incrementSessionAuthCount env user).note
      (.processed s.security.challenge.criticalASDU.asdu
        s.security.challenge.criticalASDU.header)) := by
  obtain ⟨hchallenge, hreply⟩ := h.waiting hauthentic.waiting
  have hwaiting : (requestBooks env s.log).waiting = true := by
    rw [RequestBooks.waiting, hchallenge, hreply]
    rfl
  have hreplied : Audited env (s.endWait (.replied user hmacValue)) :=
    h.ended rfl hwaiting (Bool.and_false _) rfl
  have hlooked : Audited env ((s.endWait (.replied user hmacValue)).tryGetSessionKeys user).1 :=
    hreplied.note rfl rfl ⟨rfl, rfl⟩
  have hcounted : Audited env (((s.endWait (.replied user hmacValue)).tryGetSessionKeys
      user).1.incrementSessionAuthCount env user) := hlooked.note rfl rfl ⟨rfl, rfl⟩
  refine hcounted.ended rfl (.inr ?_) rfl rfl
  -- the books behind the three entries before
  have hbooks : requestBooks env (((s.endWait (.replied user hmacValue)).tryGetSessionKeys
      user).1.incrementSessionAuthCount env user).log =
      (requestLedger env.toCryptoProvider env.settings).next
        ((requestLedger env.toCryptoProvider env.settings).next
          ((requestLedger env.toCryptoProvider env.settings).next (requestBooks env s.log)
            (.replied user hmacValue))
          (.sessionKeys (.returned user keys s.base.now)))
        (.sessionKeys (.verified user)) := by
    have hlog : (((s.endWait (.replied user hmacValue)).tryGetSessionKeys
        user).1.incrementSessionAuthCount env user).log =
        ((s.log ++ [.replied user hmacValue]) ++ [.sessionKeys (.returned user keys s.base.now)]) ++
          [.sessionKeys (.verified user)] :=
      congrArg (fun log => log ++ [SecurityEffect.sessionKeys (.verified user)])
        (log_tryGetSessionKeys hauthentic.returned)
    unfold requestBooks
    rw [hlog, Observer.after_concat, Observer.after_concat,
      Observer.after_concat]
  have hauthorized := hauthentic.authorized
  unfold OutstationUserDatabase.isAuthorized at hauthorized
  split at hauthorized
  · cases hauthorized
  next info hfind =>
    rw [hbooks]
    refine ⟨user, hmacValue, _, keys, info, hchallenge, rfl, rfl, ?_, ?_, hauthorized⟩
    · exact (ChallengeState.verifyAuthenticity_iff _ _ _ _ _).mp hauthentic.verified
    · show (requestBooks env s.log).users user.id = some info
      rw [users_requestBooks, hregistered]
      exact hfind

theorem move (h : Audited env s) (hregistered : Registered s) (hm : Move env s s') :
    Audited env s' := by
  cases hm with
  | quiet hq =>
    obtain ⟨stats, otherStats, deferred, hsecurity⟩ := hq.security
    exact h.same hq.log (by rw [hsecurity]) fun _ => by rw [hsecurity]
  | writeChallenge challenge hidle =>
    exact h.same rfl rfl fun hwait => by rw [hidle] at hwait; cases hwait
  | serve | takeUp | getSessionKeyStatus | dropUpdateKey | dropChange | goOnline | elapse
      | dropTimer => exact h.same rfl rfl fun _ => rfl
  | awaitReply hidle honline hsent hcritical => exact h.awaitReply hsent hcritical
  | abandon hwait => exact h.ended rfl trivial rfl rfl
  | reply user hmacValue hwait =>
    obtain ⟨hchallenge, hreply⟩ := h.waiting hwait
    refine h.ended rfl ?_ (Bool.and_false _) rfl
    show (requestBooks env s.log).waiting = true
    rw [RequestBooks.waiting, hchallenge, hreply]
    rfl
  | authenticate user hmacValue keys hauthentic => exact h.authenticate hregistered hauthentic
  | process asdu header hidle hcritical =>
    exact h.ended rfl (.inl ⟨hcritical, h.idle hidle⟩) rfl hidle
  | goOffline honline =>
    rw [onLowerLayerDown_eq honline]
    have hdown : Audited env { s with
        base := s.base.onLowerLayerDown
        security := { s.security with
          state := .idle
          updateKeyChangeState := s.security.updateKeyChangeState.reset
          challengeTimer := none
          sessions := s.security.sessions.clear }
        log := s.log ++ [.abandoned] } := h.ended rfl trivial rfl rfl
    exact hdown.note (List.append_assoc s.log [_] [_]).symm rfl ⟨rfl, rfl⟩
  | deleteUser => exact h.note₂ rfl rfl rfl ⟨rfl, rfl⟩
  | setSessionKeys change keys state =>
    have hset : Audited env (s.setSessionKeys env change ⟨change.userNum⟩ keys) :=
      h.note₂ rfl rfl rfl ⟨rfl, rfl⟩
    exact hset.note rfl rfl ⟨rfl, rfl⟩
  | storeUser keyChange authData updateKey change =>
    have hverified : Audited env (s.takeChange.note (.updateKeyVerified keyChange authData
        s.base.now (newUser s.security.updateKeyChangeState.data updateKey change))) :=
      h.note rfl rfl ⟨rfl, rfl⟩
    exact hverified.note₂ rfl rfl rfl ⟨rfl, rfl⟩
  | configureUser info =>
    have hconfigured : Audited env (s.note (.userConfigured info)) := h.note rfl rfl ⟨rfl, rfl⟩
    exact hconfigured.note₂ rfl rfl rfl ⟨rfl, rfl⟩
  | _ => exact h.note rfl rfl ⟨rfl, rfl⟩

end Audited

/-! ## What is answered -/

/-- The request was processed; objects that did not fit into the buffer for requests that are kept
are lost. -/
def Handed (log : List SecurityEffect) (header : APDUHeader) (objects : List UInt8) : Prop :=
  ∃ asdu, SecurityEffect.processed asdu header ∈ log ∧ (objects = asdu.drop 2 ∨ objects = [])

theorem Handed.append {log : List SecurityEffect} {header : APDUHeader} {objects : List UInt8}
    (h : Handed log header objects) (entries : List SecurityEffect) :
    Handed (log ++ entries) header objects := by
  obtain ⟨asdu, hmem, hobjects⟩ := h
  exact ⟨asdu, List.mem_append_left entries hmem, hobjects⟩

/-- What the plain outstation answers or keeps was processed. -/
structure Serving (s : OAuthContext W) : Prop where
  answers : ∀ p ∈ answered s.base.log, Handed s.log p.1 p.2
  deferred : s.base.deferred.isSet = true →
    Handed s.log s.base.deferred.header s.base.deferred.objects

namespace Serving

/-- The plain outstation answers nothing and keeps nothing. -/
theorem rests (h : Serving s) {entries : List SecurityEffect} (hlog : s'.log = s.log ++ entries)
    (hbase : Rests s.base s'.base) : Serving s' := by
  constructor
  · intro p hp
    rw [hbase.answered] at hp
    rw [hlog]
    exact (h.answers p hp).append entries
  · intro hset
    rw [hbase.deferred] at hset ⊢
    rw [hlog]
    exact (h.deferred hset).append entries

theorem aside (h : Serving s) {entries : List SecurityEffect} (hlog : s'.log = s.log ++ entries)
    (hbase : s'.base = s.base) : Serving s' :=
  h.rests hlog (by rw [hbase]; exact .refl _)

/-- The request that is kept. -/
theorem handed_set {log : List SecurityEffect} {asdu : List UInt8} {header : APDUHeader}
    (h : SecurityEffect.processed asdu header ∈ log) (d : DeferredRequest) :
    Handed log (d.set header (asdu.drop 2)).header (d.set header (asdu.drop 2)).objects := by
  refine ⟨asdu, h, ?_⟩
  unfold DeferredRequest.set
  dsimp only
  split
  · exact .inr rfl
  · exact .inl rfl

theorem move (h : Serving s) (hm : Move env s s') : Serving s' := by
  cases hm with
  | quiet hq => exact h.rests (hq.log.trans (List.append_nil _).symm) hq.base
  | serve base asdu header hlast hserves =>
    obtain ⟨log, hlog⟩ := hlast
    have hprocessed : SecurityEffect.processed asdu header ∈ s.log := by
      rw [hlog]
      exact List.mem_append_right log List.mem_cons_self
    constructor
    · intro p hp
      rcases hserves.answered with hsame | hmore
      · exact h.answers p (by rwa [← hsame])
      · have hp' : p ∈ answered s.base.log ++ [(header, asdu.drop 2)] := by rwa [← hmore]
        rcases List.mem_append.mp hp' with hold | hnew
        · exact h.answers p hold
        · rw [List.mem_singleton.mp hnew]
          exact ⟨asdu, hprocessed, .inl rfl⟩
    · intro hset
      rcases hserves.deferred with hsame | hkept
      · have hset' : s.base.deferred.isSet = true := by rwa [← hsame]
        rw [hsame]
        exact h.deferred hset'
      · rw [hkept]
        exact handed_set hprocessed s.base.deferred
  | takeUp base htakes =>
    constructor
    · intro p hp
      rcases htakes.answered p hp with hold | ⟨hset, rfl⟩
      · exact h.answers p hold
      · exact h.deferred hset
    · intro hset
      have hsame := htakes.deferred hset
      have hset' : s.base.deferred.isSet = true := by rwa [← hsame]
      show Handed s.log base.deferred.header base.deferred.objects
      rw [hsame]
      exact h.deferred hset'
  | goOffline honline =>
    rw [onLowerLayerDown_eq honline]
    unfold OContext.onLowerLayerDown
    rw [if_pos honline]
    constructor
    · intro p hp
      have hp' : p ∈ answered (s.base.log ++ [Effect.layerDown]) := hp
      rw [answered_append, show answered [Effect.layerDown] = [] from rfl, List.append_nil] at hp'
      exact (h.answers p hp').append _
    · intro hset
      cases hset
  | deleteUser =>
    exact h.rests rfl ⟨rfl, rfl, rfl, rfl⟩
  | acceptStatusChange => exact h.rests rfl ⟨rfl, rfl, rfl, rfl⟩
  | goOnline => exact ⟨h.answers, h.deferred⟩
  | elapse => exact ⟨h.answers, h.deferred⟩
  | writeChallenge | getSessionKeyStatus | dropUpdateKey | dropChange | dropTimer =>
    exact h.aside (List.append_nil _).symm rfl
  | authenticate user hmacValue keys hauthentic =>
    exact h.aside (List.append_assoc _ _ _ |>.trans (List.append_assoc _ _ _ |>.trans
      (List.append_assoc _ _ _))) rfl
  | storeUser | setSessionKeys => exact h.aside (List.append_assoc _ _ _) rfl
  | configureUser => exact h.aside (List.append_assoc _ _ _) rfl
  | _ => exact h.aside rfl rfl

end Serving

/-! ## Runs -/

/-- What is said of all runs, move by move. -/
structure Authenticated (env : Surroundings W) (s : OAuthContext W) : Prop where
  registered : Registered s
  audited : Audited env s
  serving : Serving s

theorem Authenticated.moves (h : Authenticated env s) (hm : Moves env s s') :
    Authenticated env s' := by
  induction hm with
  | refl => exact h
  | tail _ hm ih =>
    exact ⟨ih.registered.move hm, ih.audited.move ih.registered hm, ih.serving.move hm⟩

theorem authenticated_initial (world : W) (now : Int) (config : EventBufferConfig)
    (database : DatabaseBuffers) (params : OutstationParams) :
    Authenticated env (initial (.initial world now config database params) env.settings) where
  registered := rfl
  audited := ⟨trivial, fun _ => rfl, fun h => by cases h⟩
  serving := by
    constructor
    · intro p hp
      cases hp
    · intro hset
      cases hset

/-- In every run, the auditor of the requests accepts the log, and whatever the outstation has
answered was processed as the log says. -/
theorem requests_authenticated (env : Surroundings W) (world : W) (now : Int)
    (config : EventBufferConfig) (database : DatabaseBuffers) (params : OutstationParams)
    (events : List (Event W)) :
    let s := run (step env) (initial (.initial world now config database params) env.settings) events
    (requestLedger env.toCryptoProvider env.settings).Accepts .initial s.log ∧
      ∀ header objects, (header, objects) ∈ answered s.base.log →
        Handed s.log header objects := by
  intro s
  have hs : Authenticated env s :=
    run_keeps (fun s e h => h.moves (moves_step s e)) events
      (authenticated_initial world now config database params)
  exact ⟨hs.audited.accepts, fun header objects hp => hs.serving.answers (header, objects) hp⟩

end OAuthContext
end Secauth
end Dnp3
