import Dnp3.Outstation.RepeatedRequests
import Dnp3.Secauth.CertifiedUsers

/-!
# Session keys in use

What an outstation does to its sessions is a run of the store of sessions, so the ledger of the keys
accepts what it notes of them: keys are looked up for as long as they are good, and verify no more
replies than the limit.

A second auditor follows how keys are installed.  The outstation keeps the last status it has made.
Every status that is kept is the next one, with the number behind the one before, or the one before
with another challenge.  Keys are installed once for a status that is kept, by a request of its user
and its number, in which the keys and the status are wrapped with the update key of the user.

Whatever happens, a reply is waited for only online, with the timer running and a critical request
kept, and every session is one of a user.
-/

namespace Dnp3
namespace Secauth

open App Library Master Outstation

/-! ## How keys are installed -/

/-- Keys that are unwrapped have legal sizes. -/
theorem valid_unwrap {aes : AES} {updateKey inputData : List UInt8} {keys : SessionKeysView}
    {keyStatusObject : List UInt8}
    (h : SessionKeyUnwrapBuffer.unwrap aes updateKey inputData = some (keys, keyStatusObject)) :
    keys.isValid = true := by
  unfold SessionKeyUnwrapBuffer.unwrap at h
  split at h
  · cases h
  next unwrapped hunwrapped =>
    split at h
    · cases h
    · dsimp only at h
      split at h
      · cases h
      next hlimits =>
        rw [Bool.not_eq_true', Bool.not_eq_false] at hlimits
        split at h
        · cases h
        next hlength =>
          simp only [Option.some.injEq, Prod.mk.injEq] at h
          obtain ⟨rfl, -⟩ := h
          have hcontrol : ((unwrapped.drop 2).take (leNat (unwrapped.take 2))).length =
              leNat (unwrapped.take 2) := by
            rw [List.length_take]
            omega
          have hmonitor : (((unwrapped.drop 2).drop (leNat (unwrapped.take 2))).take
              (leNat (unwrapped.take 2))).length = leNat (unwrapped.take 2) := by
            rw [List.length_take, List.length_drop]
            omega
          unfold SessionKeysView.isValid
          dsimp only
          rw [hcontrol, hmonitor, hlimits, beq_self_eq_true]
          rfl

/-- What the auditor of the installations knows. -/
structure ChangeBooks where
  users : UInt16 → Option OutstationUserInfo
  /-- The status that is kept, with its user. -/
  kept : User × Group120Var5
  /-- No keys were installed for the status. -/
  unused : Bool
  /-- The change that was unwrapped just before. -/
  unwrapped : Option Group120Var6

namespace ChangeBooks

/-- Nothing was stored or sent. -/
def initial : ChangeBooks where
  users _ := none
  kept := (.unknown, (SessionKeyChangeState.initial 0).statusRsp)
  unused := true
  unwrapped := none

/-- The change has the keys and the status that is kept, wrapped with the user's update key. -/
def Carries (aes : AES) (books : ChangeBooks) (change : Group120Var6) (user : User)
    (keys : SessionKeysView) : Prop :=
  user.id = change.userNum ∧ books.kept.1 = user ∧
    books.kept.2.keyChangeSeqNum = change.keyChangeSeqNum ∧
    ∃ info keyStatusObject, books.users user.id = some info ∧
      SessionKeyUnwrapBuffer.unwrap aes info.updateKey.getView.data change.keyWrapData =
        some (keys, keyStatusObject) ∧
      group120Var5.bytes { books.kept.2 with hmacValue := [] } <+: keyStatusObject

/-- The status is the next one, or the one before with another challenge. -/
def Follows (books : ChangeBooks) (user : User) (status : Group120Var5) : Prop :=
  status.userNum = user.id ∧
      status.keyChangeSeqNum = books.kept.2.keyChangeSeqNum + 1 ∨
    user = books.kept.1 ∧
      status = { books.kept.2 with challengeData := status.challengeData }

/-- The books with one more entry read, but for the users and the change just before. -/
def read (books : ChangeBooks) : SecurityEffect → ChangeBooks
  | .statusKept user status => { books with kept := (user, status), unused := true }
  | .sessionKeys (.installed _ _ _) => { books with unused := false }
  | _ => books

/-- The change that was unwrapped. -/
def unwrappedBy : SecurityEffect → Option Group120Var6
  | .keysUnwrapped change => some change
  | _ => none

end ChangeBooks

/-- The auditor of the installations. -/
def changeLedger (aes : AES) : Observer ChangeBooks SecurityEffect where
  allows books
    | .statusKept user status => books.Follows user status
    | .sessionKeys (.installed user keys _) =>
      books.unused = true ∧ ∃ change, books.unwrapped = some change ∧
        books.Carries aes change user keys
    | _ => True
  next books e :=
    { books.read e with
      users := registered books.users e
      unwrapped := ChangeBooks.unwrappedBy e }

/-- The entry is none of those about installations. -/
def SecurityEffect.isElsewhere : SecurityEffect → Bool
  | .statusKept .. => false
  | .sessionKeys (.installed ..) => false
  | _ => true

namespace OAuthContext

variable {W : Type} {env : Surroundings W} {s s' : OAuthContext W}

/-- What the auditor of the installations knows of an outstation. -/
def changeBooks (env : Surroundings W) (log : List SecurityEffect) : ChangeBooks :=
  (changeLedger env.getAESKeyWrap).after .initial log

theorem users_changeBooks (log : List SecurityEffect) :
    (changeBooks env log).users = usersOf log := by
  induction log using List.reverseRecOn with
  | nil => rfl
  | append_singleton log e ih =>
    rw [usersOf_append, ← ih]
    unfold changeBooks
    rw [Observer.after_concat]
    rfl

/-- The auditor accepts, and knows the status that is kept; it is not used up. -/
structure Installing (env : Surroundings W) (s : OAuthContext W) : Prop where
  accepts : (changeLedger env.getAESKeyWrap).Accepts .initial s.log
  kept : (changeBooks env s.log).kept = (s.security.sessionKeyChangeState.lastUser,
    s.security.sessionKeyChangeState.statusRsp)
  unused : (changeBooks env s.log).unused = true
  ksq : s.security.sessionKeyChangeState.statusRsp.keyChangeSeqNum =
    s.security.sessionKeyChangeState.keyChangeSeqNum

namespace Installing

theorem after_note (e : SecurityEffect) (log : List SecurityEffect) :
    changeBooks env (log ++ [e]) =
      (changeLedger env.getAESKeyWrap).next (changeBooks env log) e :=
  Observer.after_concat _ _ _ _

/-- Nothing is added to the log. -/
theorem same (h : Installing env s) (hlog : s'.log = s.log)
    (hstate : s'.security.sessionKeyChangeState = s.security.sessionKeyChangeState) :
    Installing env s' := by
  constructor
  · rw [hlog]
    exact h.accepts
  · rw [hlog, hstate]
    exact h.kept
  · rw [hlog]
    exact h.unused
  · rw [hstate]
    exact h.ksq

/-- An entry about something else is added. -/
theorem note (h : Installing env s) {e : SecurityEffect} (hlog : s'.log = s.log ++ [e])
    (he : e.isElsewhere = true)
    (hstate : s'.security.sessionKeyChangeState = s.security.sessionKeyChangeState) :
    Installing env s' := by
  have hentry : (changeLedger env.getAESKeyWrap).allows (changeBooks env s.log) e ∧
      (changeBooks env s.log).read e = changeBooks env s.log := by
    cases e with
    | statusKept => cases he
    | sessionKeys note =>
      cases note with
      | installed => cases he
      | _ => exact ⟨trivial, rfl⟩
    | _ => exact ⟨trivial, rfl⟩
  have hread : ((changeBooks env s'.log).kept, (changeBooks env s'.log).unused) =
      (((changeBooks env s.log).read e).kept, ((changeBooks env s.log).read e).unused) := by
    rw [hlog, after_note]
    rfl
  rw [hentry.2, Prod.mk.injEq] at hread
  constructor
  · rw [hlog]
    exact Observer.accepts_concat _ h.accepts hentry.1
  · rw [hread.1, hstate]
    exact h.kept
  · rw [hread.2]
    exact h.unused
  · rw [hstate]
    exact h.ksq

/-- Two of them. -/
theorem note₂ (h : Installing env s) {e e' : SecurityEffect} (hlog : s'.log = s.log ++ [e, e'])
    (he : e.isElsewhere = true) (he' : e'.isElsewhere = true)
    (hstate : s'.security.sessionKeyChangeState = s.security.sessionKeyChangeState) :
    Installing env s' := by
  have hfirst : Installing env (s.note e) := h.note rfl he rfl
  exact hfirst.note (hlog.trans (List.append_assoc s.log [e] [e']).symm) he' hstate

/-- The status that is kept next, by what the books say of the one before. -/
theorem follows {books : ChangeBooks} {state state' : SessionKeyChangeState}
    (hkept : books.kept = (state.lastUser, state.statusRsp))
    (hksq : state.statusRsp.keyChangeSeqNum = state.keyChangeSeqNum) (h : Keeps state state') :
    books.Follows state'.lastUser state'.statusRsp ∧
      state'.statusRsp.keyChangeSeqNum = state'.keyChangeSeqNum := by
  unfold ChangeBooks.Follows
  rw [hkept]
  rcases h.next with ⟨huser, hnext, hsame⟩ | ⟨huser, hseq, hstatus⟩
  · exact ⟨.inl ⟨huser, by rw [hsame, hnext, hksq]⟩, hsame⟩
  · refine ⟨.inr ⟨huser, hstatus⟩, ?_⟩
    have hnumber := congrArg Group120Var5.keyChangeSeqNum hstatus
    exact hnumber.trans (hksq.trans hseq.symm)

theorem keepStatus (h : Installing env s) {state : SessionKeyChangeState}
    (hkeeps : Keeps s.security.sessionKeyChangeState state) :
    Installing env (s.keepStatus state) := by
  obtain ⟨hfollows, hksq⟩ := follows h.kept h.ksq hkeeps
  have hbooks := @after_note W env (.statusKept state.lastUser state.statusRsp) s.log
  constructor
  · exact Observer.accepts_concat _ h.accepts hfollows
  · exact congrArg ChangeBooks.kept hbooks
  · exact congrArg ChangeBooks.unused hbooks
  · exact hksq

theorem carries (h : Installing env s) (hregistered : Registered s) {change : Group120Var6}
    {keys : SessionKeysView}
    (hunwrapped : Unwrapped env s.security.sessionKeyChangeState s.security.userDB change keys) :
    keys.stored = keys ∧
      (changeBooks env s.log).Carries env.getAESKeyWrap change ⟨change.userNum⟩ keys := by
  obtain ⟨keyStatusObject, hunwrap, hstatus⟩ := hunwrapped.unwrap
  refine ⟨SessionKeysView.stored_eq (valid_unwrap hunwrap), rfl, ?_⟩
  have hmatched := hunwrapped.matched
  unfold SessionKeyChangeState.checkUserAndKSQMatches at hmatched
  rw [Bool.and_eq_true, beq_iff_eq, beq_iff_eq] at hmatched
  rw [SessionKeyChangeState.equalsLastStatusResponse_iff] at hstatus
  have hknown := hunwrapped.known
  unfold OutstationUserDatabase.getUpdateKeyView at hunwrap hknown
  split at hknown
  · exact absurd rfl hknown
  next info hfind =>
    rw [hfind] at hunwrap
    rw [h.kept]
    refine ⟨congrArg User.mk hmatched.1, h.ksq.trans hmatched.2, info, keyStatusObject, ?_,
      hunwrap, hstatus⟩
    rw [users_changeBooks, hregistered]
    exact hfind

/-- Keys are installed, and then the next status is kept. -/
theorem setSessionKeys (h : Installing env s) (hregistered : Registered s)
    {change : Group120Var6} {keys : SessionKeysView} {state : SessionKeyChangeState}
    (hunwrapped : Unwrapped env s.security.sessionKeyChangeState s.security.userDB change keys)
    (hkeeps : Keeps s.security.sessionKeyChangeState state) :
    Installing env ((s.setSessionKeys env change ⟨change.userNum⟩ keys).keepStatus state) := by
  obtain ⟨hstored, hcarries⟩ := h.carries hregistered hunwrapped
  obtain ⟨hfollows, hksq⟩ := follows h.kept h.ksq hkeeps
  have hlog : ((s.setSessionKeys env change ⟨change.userNum⟩ keys).keepStatus state).log =
      ((s.log ++ [.keysUnwrapped change]) ++
        [.sessionKeys (.installed ⟨change.userNum⟩ keys s.base.now)]) ++
          [.statusKept state.lastUser state.statusRsp] := by
    conv_rhs => rw [← hstored]
    rw [List.append_assoc s.log]
    rfl
  constructor
  · rw [hlog]
    refine Observer.accepts_concat _ (Observer.accepts_concat _ (Observer.accepts_concat _
      h.accepts trivial) ?_) ?_
    · refine ⟨?_, change, ?_, ?_⟩
      · rw [Observer.after_concat]
        exact h.unused
      · rw [Observer.after_concat]
        rfl
      · rw [Observer.after_concat]
        exact hcarries
    · rw [Observer.after_concat, Observer.after_concat]
      exact hfollows
  · rw [hlog, after_note]
    rfl
  · rw [hlog, after_note]
    rfl
  · exact hksq

theorem move (h : Installing env s) (hregistered : Registered s) (hm : Move env s s') :
    Installing env s' := by
  cases hm with
  | quiet hq =>
    obtain ⟨stats, otherStats, deferred, hsecurity⟩ := hq.security
    exact h.same hq.log (by rw [hsecurity])
  | writeChallenge | serve | takeUp | getSessionKeyStatus | dropUpdateKey | dropChange | goOnline
      | elapse | dropTimer => exact h.same rfl rfl
  | keepStatus state hkeeps => exact h.keepStatus hkeeps
  | setSessionKeys change keys state hunwrapped hkeeps =>
    exact h.setSessionKeys hregistered hunwrapped hkeeps
  | tryGetSessionKeys user =>
    refine h.note rfl ?_ rfl
    split
    · rfl
    · rfl
  | authenticate user hmacValue keys hauthentic =>
    have hreplied : Installing env (s.endWait (.replied user hmacValue)) := h.note rfl rfl rfl
    have hlooked : Installing env ((s.endWait (.replied user hmacValue)).tryGetSessionKeys
        user).1 := by
      refine hreplied.note rfl ?_ rfl
      split
      · rfl
      · rfl
    have hcounted : Installing env (((s.endWait (.replied user hmacValue)).tryGetSessionKeys
        user).1.incrementSessionAuthCount env user) := hlooked.note rfl rfl rfl
    exact hcounted.note rfl rfl rfl
  | storeUser keyChange authData updateKey change =>
    have hverified : Installing env (s.takeChange.note (.updateKeyVerified keyChange authData
        s.base.now (newUser s.security.updateKeyChangeState.data updateKey change))) :=
      h.note rfl rfl rfl
    exact hverified.note₂ rfl rfl rfl rfl
  | configureUser info =>
    have hconfigured : Installing env (s.note (.userConfigured info)) := h.note rfl rfl rfl
    exact hconfigured.note₂ rfl rfl rfl rfl
  | deleteUser => exact h.note₂ rfl rfl rfl rfl
  | goOffline honline =>
    rw [onLowerLayerDown_eq honline]
    exact h.note₂ rfl rfl rfl rfl
  | _ => exact h.note rfl rfl rfl

end Installing

theorem installing_initial (base : OContext W) (settings : OutstationAuthSettings) :
    Installing env (initial base settings) := ⟨trivial, rfl, rfl, rfl⟩

theorem Installing.moves (h : Installing env s) (hregistered : Registered s)
    (hm : Moves env s s') : Installing env s' := by
  induction hm with
  | refl => exact h
  | tail hbefore hm ih => exact ih.move (hregistered.moves hbefore) hm

/-- In every run, the auditor of the installations accepts the log. -/
theorem installations_justified (env : Surroundings W) (world : W) (now : Int)
    (config : EventBufferConfig) (database : DatabaseBuffers) (params : OutstationParams)
    (events : List (Event W)) :
    (changeLedger env.getAESKeyWrap).Accepts .initial
      (run (step env) (initial (.initial world now config database params) env.settings)
        events).log := by
  have hs := run_keeps (I := fun s => Registered s ∧ Installing env s)
    (fun s e h => ⟨h.1.moves (moves_step s e), h.2.moves h.1 (moves_step s e)⟩) events
    (s := initial (.initial world now config database params) env.settings)
    ⟨rfl, installing_initial _ _⟩
  exact hs.2.accepts

/-! ## How keys are used -/

/-- What is noted of the keys. -/
def keyNotes (log : List SecurityEffect) : List KeyNote :=
  log.filterMap fun
    | .sessionKeys note => some note
    | _ => none

theorem keyNotes_append (log entries : List SecurityEffect) :
    keyNotes (log ++ entries) = keyNotes log ++ keyNotes entries := List.filterMap_append

/-- The sessions of an outstation, as a run of the store. -/
def storeRun (s : OAuthContext W) : StoreRun := ⟨s.security.sessions, s.base.now, keyNotes s.log⟩

/-- The sessions are those of a run of the store that the ledger accepts. -/
def BookedKeys (env : Surroundings W) (s : OAuthContext W) : Prop :=
  s.storeRun.Booked env.settings.limits

namespace BookedKeys

/-- The sessions and the notes are the same at another time. -/
theorem same (h : BookedKeys env s) (hsessions : s'.security.sessions = s.security.sessions)
    (hnotes : keyNotes s'.log = keyNotes s.log) : BookedKeys env s' := by
  obtain ⟨haccepted, hbacked⟩ := h
  unfold StoreRun.books storeRun at hbacked
  constructor
  · show Observer.Accepts _ _ (keyNotes s'.log)
    rw [hnotes]
    exact haccepted
  · unfold StoreRun.books storeRun
    dsimp only at hbacked ⊢
    rw [hnotes, hsessions]
    exact hbacked

/-- An entry that is not about keys. -/
theorem note (h : BookedKeys env s) {e : SecurityEffect} (he : keyNotes [e] = []) :
    BookedKeys env (s.note e) :=
  h.same rfl ((keyNotes_append s.log [e]).trans (by rw [he, List.append_nil]))

/-- The outstation does what the store does. -/
theorem of_store {r : StoreRun} (hr : r.Booked env.settings.limits)
    (hsessions : s'.security.sessions = r.store) (hnotes : keyNotes s'.log = r.log) :
    BookedKeys env s' := by
  have hrun : s'.storeRun = { r with now := s'.base.now } := by
    unfold storeRun
    rw [hsessions, hnotes]
  unfold BookedKeys
  rw [hrun]
  exact ⟨hr.accepted, hr.backed⟩

theorem tryGetSessionKeys (h : BookedKeys env s) (user : User) :
    BookedKeys env (s.tryGetSessionKeys user).1 :=
  of_store (StoreRun.booked_tryGet h user).1 rfl (keyNotes_append s.log [_])

theorem incrementSessionAuthCount (h : BookedKeys env s) {user : User} {session : Session}
    (hfind : s.security.sessions.sessionMap.find user.id = some session)
    (hok : session.status = .ok) : BookedKeys env (s.incrementSessionAuthCount env user) :=
  of_store (StoreRun.booked_countReply (r := s.storeRun) h hfind hok) rfl
    (keyNotes_append s.log [_])

theorem addUser (h : BookedKeys env s) (info : OutstationUserInfo) :
    BookedKeys env (s.addUser info) :=
  of_store (StoreRun.booked_invalidate h info.user) rfl (keyNotes_append s.log [_, _])

theorem move (hmax : 0 < env.settings.maxAuthMsgCount) (h : BookedKeys env s)
    (hm : Move env s s') : BookedKeys env s' := by
  cases hm with
  | quiet hq =>
    obtain ⟨stats, otherStats, deferred, hsecurity⟩ := hq.security
    exact h.same (by rw [hsecurity]) (by rw [hq.log])
  | writeChallenge | serve | takeUp | dropUpdateKey | dropChange | goOnline | elapse | dropTimer =>
    exact h.same rfl rfl
  | getSessionKeyStatus user hknown =>
    exact of_store (StoreRun.booked_getSessionKeyStatus h user) rfl rfl
  | setSessionKeys change keys state hunwrapped hkeeps =>
    have hset : BookedKeys env (s.setSessionKeys env change ⟨change.userNum⟩ keys) :=
      of_store (StoreRun.booked_setSessionKeys hmax h ⟨change.userNum⟩ keys) rfl
        (keyNotes_append s.log [_, _])
    exact hset.same rfl ((keyNotes_append _ [_]).trans (List.append_nil _))
  | tryGetSessionKeys user => exact h.tryGetSessionKeys user
  | incrementAuthCount user session hfind hok => exact h.incrementSessionAuthCount hfind hok
  | authenticate user hmacValue keys hauthentic =>
    have hreplied : BookedKeys env (s.endWait (.replied user hmacValue)) :=
      h.same rfl ((keyNotes_append s.log [_]).trans (List.append_nil _))
    obtain ⟨session, hfind, hok, -⟩ := status_tryGetSessionKeys hauthentic.returned
    exact ((hreplied.tryGetSessionKeys user).incrementSessionAuthCount hfind hok).note rfl
  | deleteUser change userDB user =>
    exact of_store (StoreRun.booked_invalidate h user) rfl (keyNotes_append s.log [_, _])
  | storeUser keyChange authData updateKey change =>
    have htaken : BookedKeys env s.takeChange := h.same rfl rfl
    exact (htaken.note rfl).addUser _
  | configureUser info => exact (h.note rfl).addUser info
  | goOffline honline =>
    rw [onLowerLayerDown_eq honline]
    exact of_store (StoreRun.booked_step hmax h .clear) rfl (keyNotes_append s.log [_, _])
  | _ => exact h.same rfl ((keyNotes_append s.log [_]).trans (List.append_nil _))

theorem moves (hmax : 0 < env.settings.maxAuthMsgCount) (h : BookedKeys env s)
    (hm : Moves env s s') : BookedKeys env s' := by
  induction hm with
  | refl => exact h
  | tail _ hm ih => exact ih.move hmax hm

end BookedKeys

/-- In every run the ledger accepts what is noted of the keys, when the limit is positive. -/
theorem session_keys_limited (env : Surroundings W) (world : W) (now : Int)
    (config : EventBufferConfig) (database : DatabaseBuffers) (params : OutstationParams)
    (events : List (Event W)) (hmax : 0 < env.settings.maxAuthMsgCount) :
    (keyLedger env.settings.limits).Accepts (fun _ => none)
      (keyNotes (run (step env)
        (initial (.initial world now config database params) env.settings) events).log) := by
  have hinitial : BookedKeys env
      (initial (.initial world now config database params) env.settings) := by
    refine ⟨trivial, fun id s hs => ?_⟩
    cases hs
  exact (run_keeps (I := BookedKeys env) (fun s e h => h.moves hmax (moves_step s e)) events
    hinitial).accepted

/-- All requests are critical, and keys are good for one reply in a quarter of an hour. -/
def exampleSettings : OutstationAuthSettings where
  outstationName := "outstation"
  challengeTimeout := 2000
  challengeSize := 4
  sessionKeyChangeChallengeSize := 4
  updateKeyChangeChallengeSize := 4
  assocId := 0
  hmacMode := .sha256Trunc16
  functions := .authEverything
  maxAuthMsgCount := 1
  sessionKeyTimeout := 900000

/-- Cryptography of constant values, for the change of keys of the example before. -/
def exampleSurroundings : Surroundings Nat where
  toCallbacks := OContext.countingCallbacks
  utcNow _ := 0
  onNewSCSN w _ := w
  onDeleteUser w _ _ := w
  addOrUpdateUser w _ := w
  getSHA1HMAC _ _ := some (.replicate 20 0xFF)
  getSHA256HMAC _ _ := some (.replicate 32 0xFF)
  getAESKeyWrap := exampleAES
  getSecureRandom w size :=
    (w, Vector.ofFn fun i : Fin size => [0xDE, 0xAD, 0xBE, 0xEF].getD i.val 0, true)
  settings := exampleSettings

/-- A user asks for the status of its keys, and changes them; then two requests are challenged, and
the replies to both come in. -/
def exampleEvents : List (Event Nat) :=
  [.addUser ⟨.default, "bob", .allowAll, .repeated 0xFF .aes128⟩, .lowerLayerUp,
    .receive [0xC0, 0x20, 0x78, 0x04, 0x07, 0x01, 0x01, 0x00], .sendResult true,
    .receive ([0xC0, 0x20, 0x78, 0x06, 0x5B, 0x01, 0x46, 0x00, 0x01, 0x00, 0x00, 0x00, 0x01, 0x00] ++
      exampleOutput), .sendResult true,
    .receive [0xC0, 0x01, 0x3C, 0x02, 0x06], .sendResult true,
    .receive ([0xC0, 0x20, 0x78, 0x02, 0x5B, 0x01, 0x16, 0x00, 0x01, 0x00, 0x00, 0x00, 0x01, 0x00] ++
      List.replicate 16 0xFF), .sendResult true,
    .receive [0xC1, 0x01, 0x3C, 0x02, 0x06], .sendResult true,
    .receive ([0xC1, 0x20, 0x78, 0x02, 0x5B, 0x01, 0x16, 0x00, 0x02, 0x00, 0x00, 0x00, 0x01, 0x00] ++
      List.replicate 16 0xFF), .sendResult true]

/-- Fragments with room for a change of keys, and nothing unsolicited: the requests are taken up as
they come in. -/
def exampleParams : OutstationParams :=
  { OContext.smallParams with
    maxTxFragSize := 2048
    maxRxFragSize := 2048
    allowUnsolicited := false }

set_option maxRecDepth 20000 in
/-- The keys are installed and verify the first reply; at the second they are used up. -/
theorem session_keys_limited_example :
    (keyLedger exampleSurroundings.settings.limits).Accepts (fun _ => none)
      (keyNotes (run (step exampleSurroundings)
        (initial (.initial 0 0 (.allTypes 0) (.ofType .binary 1) exampleParams)
          exampleSurroundings.settings) exampleEvents).log) ∧
    keyNotes (run (step exampleSurroundings)
      (initial (.initial 0 0 (.allTypes 0) (.ofType .binary 1) exampleParams)
        exampleSurroundings.settings) exampleEvents).log =
      [.invalidated ⟨1⟩, .installed ⟨1⟩ ⟨.replicate 16 1, .replicate 16 2⟩ 0,
        .returned ⟨1⟩ ⟨.replicate 16 1, .replicate 16 2⟩ 0, .verified ⟨1⟩, .refused ⟨1⟩] :=
  ⟨session_keys_limited exampleSurroundings 0 0 (.allTypes 0) (.ofType .binary 1) exampleParams
    exampleEvents (by decide), by decide +kernel⟩

/-! ## What holds in every state -/

/-- A reply to a critical request is waited for while the timer runs, online; and whoever has a
session is a user. -/
structure Guarded (env : Surroundings W) (s : OAuthContext W) : Prop where
  timer : s.security.state = .waitForReply ↔ s.security.challengeTimer.isSome = true
  online : s.security.state = .waitForReply → s.base.isOnline = true
  critical : s.security.state = .waitForReply → env.settings.functions.isCritical
    s.security.challenge.criticalASDU.header.function = true
  sessions : ∀ id, (s.security.sessions.sessionMap.find id).isSome = true →
    (s.security.userDB.userMap.find id).isSome = true

namespace Guarded

/-- Whether there is a session is what a change of another session does not change. -/
theorem isSome_insert {store : SessionStore} {user : UInt16} {session session' : Session}
    (hfind : store.sessionMap.find user = some session) (id : UInt16) :
    ((store.sessionMap.insert user session').find id).isSome =
      (store.sessionMap.find id).isSome := by
  rw [OrderedMap.find_insert]
  split
  next h =>
    rw [h, hfind]
    rfl
  · rfl

theorem isSome_tryGetSessionKeys (store : SessionStore) (now : Int) (user : User) (id : UInt16) :
    ((store.tryGetSessionKeys now user).1.sessionMap.find id).isSome =
      (store.sessionMap.find id).isSome := by
  unfold SessionStore.tryGetSessionKeys
  split
  · rfl
  next session hfind => exact isSome_insert hfind id

theorem isSome_incrementAuthCount (limits : SessionLimits) (store : SessionStore) (user : User)
    (id : UInt16) :
    ((store.incrementAuthCount limits user).1.sessionMap.find id).isSome =
      (store.sessionMap.find id).isSome := by
  unfold SessionStore.incrementAuthCount
  split
  · rfl
  next session hfind => exact isSome_insert hfind id

/-- A session is gone, and the others are as before. -/
theorem find_invalidate (store : SessionStore) (user : User) (id : UInt16) :
    (store.invalidate user).1.sessionMap.find id =
      if id = user.id then none else store.sessionMap.find id := by
  unfold SessionStore.invalidate
  split
  next hfind =>
    split
    next h => rw [h, hfind]
    · rfl
  · exact OrderedMap.find_erase store.sessionMap user.id id

/-- A session is made for a user. -/
theorem isSome_of_inserted {store : SessionStore} {user : UInt16} {session : Session}
    {id : UInt16} (h : ((store.sessionMap.insert user session).find id).isSome = true) :
    id = user ∨ (store.sessionMap.find id).isSome = true := by
  rw [OrderedMap.find_insert] at h
  split at h
  next hsame => exact .inl hsame
  · exact .inr h

theorem known_of_algorithm {db : OutstationUserDatabase} {user : User}
    (h : (db.getUpdateKeyView user).algorithm ≠ .undefined) :
    (db.userMap.find user.id).isSome = true := by
  unfold OutstationUserDatabase.getUpdateKeyView at h
  split at h
  · exact absurd rfl h
  next info hfind =>
    rw [hfind]
    rfl

/-- Neither users nor sessions change, and it is still waited for the reply or was not before. -/
theorem same (h : Guarded env s) (hstate : s'.security.state = s.security.state)
    (htimer : s'.security.challengeTimer = s.security.challengeTimer)
    (honline : s.base.isOnline = true → s'.base.isOnline = true)
    (hchallenge : s.security.state = .waitForReply →
      s'.security.challenge = s.security.challenge)
    (hsessions : ∀ id, (s'.security.sessions.sessionMap.find id).isSome = true →
      (s.security.sessions.sessionMap.find id).isSome = true ∨
        (s'.security.userDB.userMap.find id).isSome = true)
    (husers : s'.security.userDB = s.security.userDB) : Guarded env s' := by
  constructor
  · rw [hstate, htimer]
    exact h.timer
  · intro hwait
    exact honline (h.online (hstate.symm.trans hwait))
  · intro hwait
    have hwait' := hstate.symm.trans hwait
    rw [hchallenge hwait']
    exact h.critical hwait'
  · intro id hsession
    rcases hsessions id hsession with hbefore | hknown
    · rw [husers]
      exact h.sessions id hbefore
    · exact hknown

/-- Nothing of it changes. -/
theorem aside (h : Guarded env s)
    (hsecurity : s'.security.state = s.security.state ∧
      s'.security.challengeTimer = s.security.challengeTimer ∧
      s'.security.challenge = s.security.challenge ∧
      s'.security.sessions = s.security.sessions ∧ s'.security.userDB = s.security.userDB)
    (honline : s'.base.isOnline = s.base.isOnline) : Guarded env s' := by
  obtain ⟨hstate, htimer, hchallenge, hsessions, husers⟩ := hsecurity
  refine h.same hstate htimer (fun h' => honline.trans h') (fun _ => hchallenge)
    (fun id hsession => .inl ?_) husers
  rw [hsessions] at hsession
  exact hsession

/-- It is no longer waited for a reply. -/
theorem idle (h : Guarded env s) (hstate : s'.security.state = .idle)
    (htimer : s'.security.challengeTimer = none)
    (hsessions : ∀ id, (s'.security.sessions.sessionMap.find id).isSome = true →
      (s.security.sessions.sessionMap.find id).isSome = true)
    (husers : s'.security.userDB = s.security.userDB) : Guarded env s' := by
  have hnot : s'.security.state ≠ .waitForReply := by
    rw [hstate]
    decide
  refine ⟨⟨fun hwait => absurd hwait hnot, fun hsome => ?_⟩, fun hwait => absurd hwait hnot,
    fun hwait => absurd hwait hnot, fun id hsession => ?_⟩
  · rw [htimer] at hsome
    cases hsome
  · rw [husers]
    exact h.sessions id (hsessions id hsession)

theorem endWait (h : Guarded env s) (e : SecurityEffect) : Guarded env (s.endWait e) :=
  h.idle rfl rfl (fun _ hsession => hsession) rfl

theorem tryGetSessionKeys (h : Guarded env s) (user : User) :
    Guarded env (s.tryGetSessionKeys user).1 :=
  h.same rfl rfl id (fun _ => rfl)
    (fun id hsession => .inl ((isSome_tryGetSessionKeys _ _ _ id).symm.trans hsession)) rfl

theorem incrementSessionAuthCount (h : Guarded env s) (user : User) :
    Guarded env (s.incrementSessionAuthCount env user) :=
  h.same rfl rfl id (fun _ => rfl)
    (fun id hsession => .inl ((isSome_incrementAuthCount _ _ _ id).symm.trans hsession)) rfl

/-- The session of a user that is stored ends. -/
theorem addUser (h : Guarded env s) (info : OutstationUserInfo) : Guarded env (s.addUser info) := by
  refine ⟨h.timer, h.online, h.critical, fun id hsession => ?_⟩
  have hsession' :
      ((s.security.sessions.invalidate info.user).1.sessionMap.find id).isSome = true :=
    hsession
  rw [find_invalidate] at hsession'
  split at hsession'
  · cases hsession'
  next hother =>
    show ((s.security.userDB.addUser info).userMap.find id).isSome = true
    unfold OutstationUserDatabase.addUser
    split
    · rw [OrderedMap.find_insert, if_neg hother]
      exact h.sessions id hsession'
    · exact h.sessions id hsession'

theorem deleteUser (h : Guarded env s) {userDB : OutstationUserDatabase} {userName : String}
    {user : User} (hdelete : s.security.userDB.delete userName = some (userDB, user)) :
    Guarded env (s.deleteUser env userDB userName user) := by
  obtain ⟨entry, -, hentry⟩ := Option.map_eq_some_iff.mp hdelete
  cases hentry
  refine ⟨h.timer, h.online, h.critical, fun id hsession => ?_⟩
  have hsession' :
      ((s.security.sessions.invalidate ⟨entry.1⟩).1.sessionMap.find id).isSome = true :=
    hsession
  rw [find_invalidate] at hsession'
  split at hsession'
  · cases hsession'
  next hother =>
    show ((s.security.userDB.userMap.erase entry.1).find id).isSome = true
    rw [OrderedMap.find_erase, if_neg hother]
    exact h.sessions id hsession'

theorem move (h : Guarded env s) (hm : Move env s s') : Guarded env s' := by
  cases hm with
  | quiet hq =>
    obtain ⟨stats, otherStats, deferred, hsecurity⟩ := hq.security
    exact h.aside (by rw [hsecurity]; exact ⟨rfl, rfl, rfl, rfl, rfl⟩) hq.base.online
  | writeChallenge challenge hidle =>
    refine h.same rfl rfl id (fun hwait => ?_) (fun _ hsession => .inl hsession) rfl
    rw [hidle] at hwait
    cases hwait
  | awaitReply hidle honline hsent hcritical =>
    exact ⟨⟨fun _ => rfl, fun _ => rfl⟩, fun _ => honline, fun _ => hcritical, h.sessions⟩
  | abandon => exact h.endWait _
  | reply => exact h.endWait _
  | dropTimer hidle => exact h.idle hidle rfl (fun _ hsession => hsession) rfl
  | tryGetSessionKeys user => exact h.tryGetSessionKeys user
  | incrementAuthCount user => exact h.incrementSessionAuthCount user
  | authenticate user hmacValue keys =>
    exact (((h.endWait _).tryGetSessionKeys user).incrementSessionAuthCount user).aside
      ⟨rfl, rfl, rfl, rfl, rfl⟩ rfl
  | serve base asdu header hlast hserves => exact h.aside ⟨rfl, rfl, rfl, rfl, rfl⟩ hserves.online
  | takeUp base htakes => exact h.aside ⟨rfl, rfl, rfl, rfl, rfl⟩ htakes.online
  | getSessionKeyStatus user hknown =>
    refine h.same rfl rfl id (fun _ => rfl) (fun id hsession => ?_) rfl
    have hsession' : ((s.security.sessions.getSessionKeyStatus s.base.now
      user).1.sessionMap.find id).isSome = true := hsession
    unfold SessionStore.getSessionKeyStatus at hsession'
    split at hsession'
    · rcases isSome_of_inserted hsession' with rfl | hbefore
      · exact .inr (known_of_algorithm hknown)
      · exact .inl hbefore
    next session hfind => exact .inl ((isSome_insert hfind id).symm.trans hsession')
  | setSessionKeys change keys state hunwrapped =>
    refine h.same rfl rfl id (fun _ => rfl) (fun id hsession => ?_) rfl
    rcases isSome_of_inserted hsession with rfl | hbefore
    · exact .inr (known_of_algorithm hunwrapped.known)
    · exact .inl hbefore
  | deleteUser change userDB user hlast hoperation hdelete => exact h.deleteUser hdelete
  | storeUser keyChange authData updateKey change =>
    have hverified : Guarded env (s.takeChange.note (.updateKeyVerified keyChange authData
        s.base.now (newUser s.security.updateKeyChangeState.data updateKey change))) :=
      h.aside ⟨rfl, rfl, rfl, rfl, rfl⟩ rfl
    exact hverified.addUser _
  | configureUser info =>
    have hconfigured : Guarded env (s.note (.userConfigured info)) :=
      h.aside ⟨rfl, rfl, rfl, rfl, rfl⟩ rfl
    exact hconfigured.addUser info
  | goOnline =>
    exact h.same rfl rfl (fun _ => rfl) (fun _ => rfl) (fun _ hsession => .inl hsession) rfl
  | goOffline honline =>
    rw [onLowerLayerDown_eq honline]
    exact h.idle rfl rfl (fun _ hsession => by cases hsession) rfl
  | _ => exact h.aside ⟨rfl, rfl, rfl, rfl, rfl⟩ rfl

theorem moves (h : Guarded env s) (hm : Moves env s s') : Guarded env s' := by
  induction hm with
  | refl => exact h
  | tail _ hm ih => exact ih.move hm

end Guarded

/-- In every state of every run, a reply is waited for only online, with its timer running and a
critical request kept; without, the timer does not run.  Every session is one of a user. -/
theorem always_guarded (env : Surroundings W) (world : W) (now : Int)
    (config : EventBufferConfig) (database : DatabaseBuffers) (params : OutstationParams)
    (events : List (Event W)) :
    Guarded env (run (step env)
      (initial (.initial world now config database params) env.settings) events) := by
  have hinitial : Guarded env
      (initial (.initial world now config database params) env.settings) := by
    have hidle : (initial (.initial world now config database params)
        env.settings).security.state ≠ .waitForReply := SecurityState.noConfusion
    have htimer : (initial (.initial world now config database params)
        env.settings).security.challengeTimer.isSome ≠ true := Bool.false_ne_true
    refine ⟨iff_of_false hidle htimer, fun hwait => absurd hwait hidle,
      fun hwait => absurd hwait hidle, fun id hsession => ?_⟩
    cases hsession
  exact run_keeps (I := Guarded env) (fun s e h => h.moves (moves_step s e)) events hinitial

end OAuthContext
end Secauth
end Dnp3
