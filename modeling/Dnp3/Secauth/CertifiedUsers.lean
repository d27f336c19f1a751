import Dnp3.Secauth.OutstationAuthMoves

/-!
# Users are certified

Another auditor of the log follows the users.  A change of a user needs the certificate of the
authority, over all that is changed, and a number that is not used up.  A change that adds a user or
changes it waits for an update key; the outstation offers a number for the user, with a challenge,
only while a change waits.  A user is stored only by the application, or when the authority has sent
an update key for the offer, the master has shown that it has the key too, and the change that waits
has not expired; then neither the offer nor the change is there any longer.  A user is deleted only
by a change that says so.  The users of the outstation are those that the log says.
-/

namespace Dnp3
namespace Secauth

open App Library Master Outstation

/-! ## Users -/

/-- The users with one more entry read. -/
def registered (users : UInt16 → Option OutstationUserInfo) :
    SecurityEffect → UInt16 → Option OutstationUserInfo
  | .userStored info =>
    if info.updateKey.isValid then Function.update users info.user.id (some info) else users
  | .userDeleted user => Function.update users user.id none
  | _ => users

/-- The users according to the log. -/
def usersOf (log : List SecurityEffect) : UInt16 → Option OutstationUserInfo :=
  log.foldl registered fun _ => none

theorem usersOf_append (log entries : List SecurityEffect) :
    usersOf (log ++ entries) = entries.foldl registered (usersOf log) := List.foldl_append

namespace OAuthContext

variable {W : Type} {env : Surroundings W} {s s' : OAuthContext W}

theorem onLowerLayerDown_eq (h : s.base.isOnline = true) :
    s.onLowerLayerDown =
      { s with
        base := s.base.onLowerLayerDown
        security := { s.security with
          state := .idle
          updateKeyChangeState := s.security.updateKeyChangeState.reset
          challengeTimer := none
          sessions := s.security.sessions.clear }
        log := s.log ++ [.abandoned, .sessionKeys .cleared] } := by
  unfold onLowerLayerDown
  rw [if_pos h]

/-- The log says which users there are. -/
def Registered (s : OAuthContext W) : Prop :=
  usersOf s.log = s.security.userDB.userMap.find

theorem Registered.silent (h : Registered s) {entries : List SecurityEffect}
    (hlog : s'.log = s.log ++ entries)
    (hentries : entries.foldl registered (usersOf s.log) = usersOf s.log)
    (husers : s'.security.userDB = s.security.userDB) : Registered s' := by
  unfold Registered at h ⊢
  rw [hlog, usersOf_append, hentries, h, husers]

/-- A user is stored, and the session of the user ends. -/
theorem Registered.addUser (h : Registered s) (info : OutstationUserInfo) :
    Registered (s.addUser info) := by
  have hlog : usersOf (s.addUser info).log = registered (usersOf s.log) (.userStored info) :=
    usersOf_append s.log _
  unfold Registered at h ⊢
  rw [hlog, h]
  show registered _ _ = (s.security.userDB.addUser info).userMap.find
  unfold registered OutstationUserDatabase.addUser
  dsimp only
  split
  · funext id
    rw [OrderedMap.find_insert, Function.update_apply]
  · rfl

theorem Registered.move (h : Registered s) (hm : Move env s s') : Registered s' := by
  cases hm with
  | quiet hq =>
    obtain ⟨stats, otherStats, deferred, hsecurity⟩ := hq.security
    exact h.silent (hq.log.trans (List.append_nil _).symm) rfl (by rw [hsecurity])
  | writeChallenge | serve | takeUp | getSessionKeyStatus | dropUpdateKey | dropChange | goOnline
      | elapse | dropTimer => exact h.silent (List.append_nil _).symm rfl rfl
  | authenticate user hmacValue keys hauthentic =>
    exact h.silent (List.append_assoc _ _ _ |>.trans (List.append_assoc _ _ _ |>.trans
      (List.append_assoc _ _ _))) rfl rfl
  | deleteUser change userDB user hlast hoperation hdelete =>
    obtain ⟨entry, -, hentry⟩ := Option.map_eq_some_iff.mp hdelete
    cases hentry
    have hlog : usersOf (s.log ++ [SecurityEffect.userDeleted ⟨entry.1⟩,
        .sessionKeys (.invalidated ⟨entry.1⟩)]) =
          Function.update (usersOf s.log) entry.1 none := usersOf_append s.log _
    unfold Registered at h ⊢
    refine hlog.trans ?_
    funext id
    rw [h, Function.update_apply]
    exact (OrderedMap.find_erase s.security.userDB.userMap entry.1 id).symm
  | storeUser keyChange authData updateKey change =>
    have hverified : Registered (s.takeChange.note (.updateKeyVerified keyChange authData s.base.now
        (newUser s.security.updateKeyChangeState.data updateKey change))) := h.silent rfl rfl rfl
    exact hverified.addUser _
  | configureUser info =>
    have hconfigured : Registered (s.note (.userConfigured info)) := h.silent rfl rfl rfl
    exact hconfigured.addUser info
  | goOffline honline =>
    rw [onLowerLayerDown_eq honline]
    exact h.silent rfl rfl rfl
  | setSessionKeys => exact h.silent (List.append_assoc _ _ _) rfl rfl
  | _ => exact h.silent rfl rfl rfl

end OAuthContext

/-! ## The auditor -/

/-- What the auditor of the users knows. -/
structure UserBooks where
  users : UInt16 → Option OutstationUserInfo
  /-- The key of the authority, with the least number of its next change. -/
  authority : AuthorityCredentials
  /-- The change that was found authentic just before. -/
  changed : Option Group120Var10
  /-- The changes that wait for an update key, by the names of the users. -/
  waiting : String → Option ChangeData
  /-- The number that is offered, with the challenge. -/
  offered : Option VerificationData
  /-- The user that may be stored next. -/
  granted : Option OutstationUserInfo

namespace UserBooks

/-- Nothing was stored, configured or changed. -/
def initial : UserBooks where
  users _ := none
  authority := .initial
  changed := none
  waiting _ := none
  offered := none
  granted := none

/-- The books with one more entry read, but for the users and for what is true just before. -/
def read (books : UserBooks) : SecurityEffect → UserBooks
  | .authorityConfigured statusChangeSeqNumber key =>
    { books with authority := ⟨statusChangeSeqNumber, key⟩ }
  | .statusChanged change =>
    { books with authority := { books.authority with
        statusChangeSeqNum := change.statusChangeSeqNum + 1 } }
  | .changeQueued username data =>
    { books with waiting := Function.update books.waiting username (some data) }
  | .updateKeyBegun data => { books with offered := some data }
  | .updateKeyVerified _ _ _ info =>
    { books with
      offered := none
      waiting := Function.update books.waiting info.username none }
  | .sessionKeys .cleared => { books with offered := none }
  | _ => books

/-- The change that was found authentic just before. -/
def changedBy : SecurityEffect → Option Group120Var10
  | .statusChanged change => some change
  | _ => none

/-- The user that may be stored next. -/
def grantedBy : SecurityEffect → Option OutstationUserInfo
  | .userConfigured info => some info
  | .updateKeyVerified _ _ _ info => some info
  | _ => none

end UserBooks

/-- The auditor of the users. -/
def userLedger {W : Type} (env : Surroundings W) : Observer UserBooks SecurityEffect where
  allows books
    | .statusChanged change => OAuthContext.Certified env books.authority change
    | .changeQueued username data =>
      ∃ change now, books.changed = some change ∧ change.keyChangeMethod = .aes256Sha256Hmac ∧
        (change.userOperation = .opAdd ∨ change.userOperation = .opChange) ∧
        username = toString change.userName ∧ data = OAuthContext.changeData now change
    | .updateKeyBegun data =>
      (books.waiting data.username).isSome = true ∧ books.users data.user.id = none
    | .updateKeyVerified keyChange authData now info =>
      ∃ data change updateKey, books.offered = some data ∧
        books.waiting data.username = some change ∧ now ≤ change.expiration ∧
        OAuthContext.Confirmed env books.authority data keyChange authData updateKey ∧
        info = OAuthContext.newUser data updateKey change
    | .userStored info => books.granted = some info
    | .userDeleted user =>
      ∃ change info, books.changed = some change ∧ change.userOperation = .opDelete ∧
        books.users user.id = some info ∧ info.username = toString change.userName
    | _ => True
  next books e :=
    { books.read e with
      users := registered books.users e
      changed := UserBooks.changedBy e
      granted := UserBooks.grantedBy e }

namespace OAuthContext

variable {W : Type} {env : Surroundings W} {s s' : OAuthContext W}

/-- What the auditor knows of an outstation. -/
def userBooks (env : Surroundings W) (log : List SecurityEffect) : UserBooks :=
  (userLedger env).after .initial log

theorem users_userBooks (log : List SecurityEffect) : (userBooks env log).users = usersOf log := by
  induction log using List.reverseRecOn with
  | nil => rfl
  | append_singleton log e ih =>
    rw [usersOf_append, ← ih]
    unfold userBooks
    rw [Observer.after_concat]
    rfl

/-- The auditor accepts, and knows the authority, the changes that wait and the offer. -/
structure Followed (env : Surroundings W) (s : OAuthContext W) : Prop where
  accepts : (userLedger env).Accepts .initial s.log
  authority : (userBooks env s.log).authority = s.security.credentials
  waiting : ∀ username change, s.security.statusChanges.find username = some change →
    (userBooks env s.log).waiting username = some change
  offered : s.security.updateKeyChangeState.valid = true →
    (userBooks env s.log).offered = some s.security.updateKeyChangeState.data

namespace Followed

/-- What the state says of users, but for the users. -/
def SameUsers (s s' : OAuthContext W) : Prop :=
  s'.security.credentials = s.security.credentials ∧
    s'.security.statusChanges = s.security.statusChanges ∧
    s'.security.updateKeyChangeState = s.security.updateKeyChangeState

/-- Nothing is added to the log, and nothing is there that was not there before. -/
theorem same (h : Followed env s) (hlog : s'.log = s.log)
    (hcredentials : s'.security.credentials = s.security.credentials)
    (hwaiting : ∀ username change, s'.security.statusChanges.find username = some change →
      s.security.statusChanges.find username = some change)
    (hoffered : s'.security.updateKeyChangeState.valid = true →
      s'.security.updateKeyChangeState = s.security.updateKeyChangeState) : Followed env s' := by
  constructor
  · rw [hlog]
    exact h.accepts
  · rw [hlog, hcredentials]
    exact h.authority
  · intro username change hfind
    rw [hlog]
    exact h.waiting username change (hwaiting username change hfind)
  · intro hvalid
    have hsame := hoffered hvalid
    rw [hsame] at hvalid ⊢
    rw [hlog]
    exact h.offered hvalid

/-- One entry is added. -/
theorem note (h : Followed env s) {e : SecurityEffect} (hlog : s'.log = s.log ++ [e])
    (hallows : (userLedger env).allows (userBooks env s.log) e)
    (hauthority : ((userBooks env s.log).read e).authority = s'.security.credentials)
    (hwaiting : ∀ username change, s'.security.statusChanges.find username = some change →
      ((userBooks env s.log).read e).waiting username = some change)
    (hoffered : s'.security.updateKeyChangeState.valid = true →
      ((userBooks env s.log).read e).offered = some s'.security.updateKeyChangeState.data) :
    Followed env s' := by
  have hbooks : userBooks env s'.log = (userLedger env).next (userBooks env s.log) e := by
    unfold userBooks
    rw [hlog, Observer.after_concat]
  constructor
  · rw [hlog]
    exact Observer.accepts_concat _ h.accepts hallows
  · rw [hbooks]
    exact hauthority
  · rw [hbooks]
    exact hwaiting
  · rw [hbooks]
    exact hoffered

/-- The entry says nothing about users that the auditor has to remember. -/
theorem aside (h : Followed env s) {e : SecurityEffect} (hlog : s'.log = s.log ++ [e])
    (hallows : (userLedger env).allows (userBooks env s.log) e)
    (hread : (userBooks env s.log).read e = userBooks env s.log) (hsame : SameUsers s s') :
    Followed env s' := by
  obtain ⟨hcredentials, hchanges, hstate⟩ := hsame
  refine h.note hlog hallows ?_ ?_ ?_
  · rw [hread, hcredentials]
    exact h.authority
  · rw [hread, hchanges]
    exact h.waiting
  · rw [hread, hstate]
    exact h.offered

/-- What was true just before. -/
theorem changed_of_last {log : List SecurityEffect} {change : Group120Var10}
    (hlast : s.log = log ++ [.statusChanged change]) :
    (userBooks env s.log).changed = some change := by
  unfold userBooks
  rw [hlast, Observer.after_concat]
  rfl

theorem granted_note (e : SecurityEffect) (log : List SecurityEffect) :
    (userBooks env (log ++ [e])).granted = UserBooks.grantedBy e := by
  unfold userBooks
  rw [Observer.after_concat]
  rfl

/-- A user is stored that was granted just before. -/
theorem addUser (h : Followed env s) {info : OutstationUserInfo}
    (hgranted : (userBooks env s.log).granted = some info) : Followed env (s.addUser info) := by
  have hstored : Followed env { s with
      security := { s.security with
        userDB := s.security.userDB.addUser info
        sessions := (s.security.sessions.invalidate info.user).1 }
      log := s.log ++ [.userStored info] } := h.aside rfl hgranted rfl ⟨rfl, rfl, rfl⟩
  exact hstored.aside (List.append_assoc s.log [_] [_]).symm trivial rfl ⟨rfl, rfl, rfl⟩

/-- The user that is deleted is there, under the name that the change says. -/
theorem delete_cases {db userDB : OutstationUserDatabase} {userName : String} {user : User}
    (h : db.delete userName = some (userDB, user)) :
    ∃ info, db.userMap.find user.id = some info ∧ info.username = userName := by
  obtain ⟨entry, hfind, hentry⟩ := Option.map_eq_some_iff.mp h
  cases hentry
  exact ⟨entry.2,
    OrderedMap.find_of_mem (fun _ => UInt16.lt_irrefl _) (List.mem_of_find?_eq_some hfind),
    by simpa using List.find?_some hfind⟩

theorem deleteUser (h : Followed env s) (hregistered : Registered s) {change : Group120Var10}
    {userDB : OutstationUserDatabase} {user : User}
    (hchanged : (userBooks env s.log).changed = some change)
    (hoperation : change.userOperation = .opDelete)
    (hdelete : s.security.userDB.delete (toString change.userName) = some (userDB, user)) :
    Followed env (s.deleteUser env userDB (toString change.userName) user) := by
  obtain ⟨info, hfind, hname⟩ := delete_cases hdelete
  have hknown : (userBooks env s.log).users user.id = some info := by
    rw [users_userBooks, hregistered]
    exact hfind
  have hdeleted : Followed env { s with
      base := { s.base with world := env.onDeleteUser s.base.world (toString change.userName) user }
      security := { s.security with
        userDB := userDB
        sessions := (s.security.sessions.invalidate user).1 }
      log := s.log ++ [.userDeleted user] } :=
    h.aside rfl ⟨change, info, hchanged, hoperation, hknown, hname⟩ rfl ⟨rfl, rfl, rfl⟩
  exact hdeleted.aside (List.append_assoc s.log [_] [_]).symm trivial rfl ⟨rfl, rfl, rfl⟩

/-- Nobody has the number that is free. -/
theorem find_of_findFreeUserId {db : OutstationUserDatabase} {user : User}
    (h : db.findFreeUserId = some user) : db.userMap.find user.id = none := by
  unfold OutstationUserDatabase.findFreeUserId at h
  dsimp only at h
  split at h
  next hfree =>
    cases h
    exact Option.isNone_iff_eq_none.mp hfree
  · cases h

theorem move (h : Followed env s) (hregistered : Registered s) (hm : Move env s s') :
    Followed env s' := by
  cases hm with
  | quiet hq =>
    obtain ⟨stats, otherStats, deferred, hsecurity⟩ := hq.security
    refine h.same hq.log (by rw [hsecurity]) (fun _ _ hfind => ?_) fun _ => by rw [hsecurity]
    rw [hsecurity] at hfind
    exact hfind
  | writeChallenge | serve | takeUp | getSessionKeyStatus | goOnline | elapse | dropTimer =>
    exact h.same rfl rfl (fun _ _ hfind => hfind) fun _ => rfl
  | dropUpdateKey state hvalid =>
    refine h.same rfl rfl (fun _ _ hfind => hfind) fun hvalid' => ?_
    rw [hvalid] at hvalid'
    cases hvalid'
  | dropChange username =>
    refine h.same rfl rfl (fun other change hfind => ?_) fun _ => rfl
    have hfind' := (s.security.statusChanges.find_erase username other).symm.trans hfind
    split at hfind'
    · cases hfind'
    · exact hfind'
  | authenticate user hmacValue keys =>
    have hreplied : Followed env (s.endWait (.replied user hmacValue)) :=
      h.aside rfl trivial rfl ⟨rfl, rfl, rfl⟩
    have hlooked :
        Followed env ((s.endWait (.replied user hmacValue)).tryGetSessionKeys user).1 := by
      refine hreplied.aside rfl trivial ?_ ⟨rfl, rfl, rfl⟩
      split
      · rfl
      · rfl
    have hcounted : Followed env (((s.endWait (.replied user hmacValue)).tryGetSessionKeys
        user).1.incrementSessionAuthCount env user) := hlooked.aside rfl trivial rfl ⟨rfl, rfl, rfl⟩
    exact hcounted.aside rfl trivial rfl ⟨rfl, rfl, rfl⟩
  | tryGetSessionKeys user =>
    refine h.aside rfl trivial ?_ ⟨rfl, rfl, rfl⟩
    split
    · rfl
    · rfl
  | setSessionKeys change keys state =>
    have hunwrapped : Followed env { s with
        security := { s.security with
          sessions := s.security.sessions.setSessionKeys env.settings.limits s.base.now
            ⟨change.userNum⟩ keys }
        log := s.log ++ [.keysUnwrapped change] } := h.aside rfl trivial rfl ⟨rfl, rfl, rfl⟩
    have hset : Followed env (s.setSessionKeys env change ⟨change.userNum⟩ keys) :=
      hunwrapped.aside (List.append_assoc s.log [_] [_]).symm trivial rfl ⟨rfl, rfl, rfl⟩
    exact hset.aside rfl trivial rfl ⟨rfl, rfl, rfl⟩
  | acceptStatusChange change hcertified =>
    refine h.note rfl ?_ ?_ h.waiting h.offered
    · show Certified env (userBooks env s.log).authority change
      rw [h.authority]
      exact hcertified
    · exact congrArg (fun credentials : AuthorityCredentials =>
        { credentials with statusChangeSeqNum := change.statusChangeSeqNum + 1 }) h.authority
  | queueChange change hlast hmethod hoperation =>
    obtain ⟨log, hlog⟩ := hlast
    refine h.note rfl ⟨change, s.base.now, changed_of_last hlog, hmethod, hoperation, rfl, rfl⟩
      h.authority (fun other data hfind => ?_) h.offered
    have hfind' := (s.security.statusChanges.find_queueChange (toString change.userName)
      (changeData s.base.now change) other).symm.trans hfind
    show Function.update (userBooks env s.log).waiting (toString change.userName)
      (some (changeData s.base.now change)) other = some data
    rw [Function.update_apply]
    split at hfind'
    next hsame => rw [if_pos hsame, ← hfind']
    next hother =>
      rw [if_neg hother]
      exact h.waiting other data hfind'
  | deleteUser change userDB user hlast hoperation hdelete =>
    obtain ⟨log, hlog⟩ := hlast
    exact h.deleteUser hregistered (changed_of_last hlog) hoperation hdelete
  | beginUpdateKey state hpending hfree =>
    refine h.note rfl ⟨?_, ?_⟩ h.authority h.waiting fun _ => rfl
    · obtain ⟨change, hfind⟩ := Option.isSome_iff_exists.mp hpending
      rw [h.waiting state.data.username change hfind]
      rfl
    · rw [users_userBooks, hregistered]
      exact find_of_findFreeUserId hfree
  | storeUser keyChange authData updateKey change hbegun hpending hcurrent hconfirmed =>
    have hverified : Followed env (s.takeChange.note (.updateKeyVerified keyChange authData
        s.base.now (newUser s.security.updateKeyChangeState.data updateKey change))) := by
      refine h.note rfl ⟨s.security.updateKeyChangeState.data, change, updateKey,
        h.offered hbegun, h.waiting _ change hpending, hcurrent, ?_, rfl⟩ h.authority
        (fun other data hfind => ?_) fun hvalid => by cases hvalid
      · rw [h.authority]
        exact hconfirmed
      · have hfind' := (s.security.statusChanges.find_erase
          s.security.updateKeyChangeState.data.username other).symm.trans hfind
        show Function.update (userBooks env s.log).waiting
          s.security.updateKeyChangeState.data.username none other = some data
        rw [Function.update_apply]
        split at hfind'
        · cases hfind'
        next hother => exact (if_neg hother).trans (h.waiting other data hfind')
    exact hverified.addUser (granted_note _ _)
  | configureUser info =>
    have hconfigured : Followed env (s.note (.userConfigured info)) :=
      h.aside rfl trivial rfl ⟨rfl, rfl, rfl⟩
    exact hconfigured.addUser (granted_note _ _)
  | configureAuthority statusChangeSeqNumber key =>
    exact h.note rfl trivial rfl h.waiting h.offered
  | goOffline honline =>
    rw [onLowerLayerDown_eq honline]
    have hdown : Followed env { s with log := s.log ++ [.abandoned] } :=
      h.aside rfl trivial rfl ⟨rfl, rfl, rfl⟩
    exact hdown.note (List.append_assoc s.log [_] [_]).symm trivial hdown.authority hdown.waiting
      fun hvalid => by cases hvalid
  | _ => exact h.aside rfl trivial rfl ⟨rfl, rfl, rfl⟩

end Followed

/-! ## Runs -/

theorem Registered.moves (h : Registered s) (hm : Moves env s s') : Registered s' := by
  induction hm with
  | refl => exact h
  | tail _ hm ih => exact ih.move hm

theorem Followed.moves (h : Followed env s) (hregistered : Registered s) (hm : Moves env s s') :
    Followed env s' := by
  induction hm with
  | refl => exact h
  | tail hbefore hm ih => exact ih.move (hregistered.moves hbefore) hm

theorem followed_initial (base : OContext W) (settings : OutstationAuthSettings) :
    Followed env (initial base settings) where
  accepts := trivial
  authority := rfl
  waiting _ _ hfind := by cases hfind
  offered hvalid := by cases hvalid

/-- In every run, the auditor of the users accepts the log, and the users are those that the log
says. -/
theorem users_certified (env : Surroundings W) (world : W) (now : Int)
    (config : EventBufferConfig) (database : DatabaseBuffers) (params : OutstationParams)
    (events : List (Event W)) :
    let s := run (step env) (initial (.initial world now config database params) env.settings)
      events
    (userLedger env).Accepts .initial s.log ∧ s.security.userDB.userMap.find = usersOf s.log := by
  intro s
  have hs : Registered s ∧ Followed env s :=
    run_keeps (I := fun s => Registered s ∧ Followed env s)
      (fun s e h => ⟨h.1.moves (moves_step s e), h.2.moves h.1 (moves_step s e)⟩) events
      ⟨rfl, followed_initial _ _⟩
  exact ⟨hs.2.accepts, hs.1.symm⟩

end OAuthContext
end Secauth
end Dnp3
