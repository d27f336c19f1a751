import Dnp3.Library.Observer
import Dnp3.Library.Runs
import Dnp3.Master.MasterTask
import Dnp3.Secauth.OutstationUserDatabase

/-!
# Session keys

A `Session` keeps the session keys of a user with the time they expire and with how often they were
used for an authentication.  Whether they are still good is found out lazily: when their status is
asked for, when they are looked up, and when a use of them is counted.  `SessionStore` keeps the
sessions of all users; an outstation looks the keys up for every challenge reply and counts the
replies that they verify.

What is promised of the keys is a ledger (`keyLedger`).  It opens an account when keys are
installed, books the replies that they verify, and closes the account when they are refused or
dropped; keys are handed out from an open account only, before they expire, and verify no more
replies than the limit.
-/

namespace Dnp3
namespace Secauth

open App Library Master

/-! ## Keys -/

namespace AuthSizes

/-- The shortest session key. -/
def MIN_SESSION_KEY_SIZE_BYTES : Nat := 16

/-- The longest session key. -/
def MAX_SESSION_KEY_SIZE_BYTES : Nat := 32

/-- A session key may have this size. -/
def sessionKeySizeWithinLimits (size : Nat) : Bool :=
  MIN_SESSION_KEY_SIZE_BYTES ≤ size ∧ size ≤ MAX_SESSION_KEY_SIZE_BYTES

end AuthSizes

/-- A pair of session keys. -/
structure SessionKeysView where
  controlKey : List UInt8
  monitorKey : List UInt8
  deriving DecidableEq, Repr

namespace SessionKeysView

/-- Both keys have the same size, and may have it. -/
def isValid (view : SessionKeysView) : Bool :=
  view.controlKey.length == view.monitorKey.length &&
    AuthSizes.sessionKeySizeWithinLimits view.controlKey.length &&
    AuthSizes.sessionKeySizeWithinLimits view.monitorKey.length

/-- The octets of both keys. -/
def totalSize (view : SessionKeysView) : Nat := view.controlKey.length + view.monitorKey.length

end SessionKeysView

/-- A key as it is copied to a buffer of the greatest size; a longer one is not copied. -/
def copyKey (key : List UInt8) : List UInt8 :=
  if AuthSizes.MAX_SESSION_KEY_SIZE_BYTES < key.length then [] else key

/-- `SessionKeys::SetKeys`. -/
def SessionKeysView.stored (view : SessionKeysView) : SessionKeysView :=
  { controlKey := copyKey view.controlKey, monitorKey := copyKey view.monitorKey }

/-- Valid keys are stored as they are. -/
theorem SessionKeysView.stored_eq {view : SessionKeysView} (h : view.isValid = true) :
    view.stored = view := by
  simp only [isValid, AuthSizes.sessionKeySizeWithinLimits, Bool.and_eq_true,
    decide_eq_true_eq] at h
  rw [stored, copyKey, copyKey, if_neg (by omega), if_neg (by omega)]

/-! ## A session -/

/-- How long keys are good, and for how many authentications. -/
structure SessionLimits where
  sessionKeyValidity : Int
  maxAuthMessageCount : UInt32

/-- The keys of a user, with their status, when they expire and how often they were used. -/
structure Session where
  status : KeyStatus
  keys : SessionKeysView
  expirationTime : Int
  authCount : UInt32
  deriving DecidableEq, Repr

namespace Session

/-- An uninitialized session. -/
def initial : Session where
  status := .notInit
  keys := { controlKey := [], monitorKey := [] }
  expirationTime := 0
  authCount := 0

variable (limits : SessionLimits)

/-- Good keys are used once more, and are used up when the limit is reached. -/
def incrementAuthCount (s : Session) : Session × KeyStatus :=
  if s.status = .ok then
    let s := { s with authCount := s.authCount + 1 }
    if s.authCount ≥ limits.maxAuthMessageCount then
      ({ s with status := .commFail }, .commFail)
    else (s, s.status)
  else (s, s.status)

/-- Good keys whose time is over are good no longer. -/
def checkTimeValidity (s : Session) (now : Int) : Session × KeyStatus :=
  if s.status = .ok ∧ s.expirationTime < now then ({ s with status := .commFail }, .commFail)
  else (s, s.status)

/-- New keys, which are good from now on. -/
def setKeys (s : Session) (now : Int) (view : SessionKeysView) : Session :=
  { s with
    authCount := 0
    expirationTime := MonotonicTimestamp.add now limits.sessionKeyValidity
    keys := view.stored
    status := .ok }

/-- The status, which may have expired since. -/
def getKeyStatus (s : Session) (now : Int) : Session × KeyStatus := s.checkTimeValidity now

/-- The keys are returned when their status is good. -/
def tryGetKeyView (s : Session) (now : Int) : Session × KeyStatus × Option SessionKeysView :=
  let (s, result) := s.checkTimeValidity now
  (s, result, if result = .ok then some s.keys else none)

end Session

/-! ## The store -/

/-- The sessions of the users. -/
structure SessionStore where
  sessionMap : OrderedMap UInt16 Session

namespace SessionStore

/-- No user has a session. -/
def empty : SessionStore := ⟨.empty⟩

/-- All sessions end. -/
def clear (_ : SessionStore) : SessionStore := ⟨.empty⟩

variable (limits : SessionLimits)

/-- The keys of a user are used once more. -/
def incrementAuthCount (store : SessionStore) (user : User) : SessionStore × KeyStatus :=
  match store.sessionMap.find user.id with
  | none => (store, .undefined)
  | some session =>
    let (session, status) := session.incrementAuthCount limits
    (⟨store.sessionMap.insert user.id session⟩, status)

/-- The session of a user ends. -/
def invalidate (store : SessionStore) (user : User) : SessionStore × Bool :=
  match store.sessionMap.find user.id with
  | none => (store, false)
  | some _ => (⟨store.sessionMap.erase user.id⟩, true)

/-- The keys of a user are replaced; a user without a session gets one. -/
def setSessionKeys (store : SessionStore) (now : Int) (user : User) (view : SessionKeysView) :
    SessionStore :=
  let session := (store.sessionMap.find user.id).getD .initial
  ⟨store.sessionMap.insert user.id (session.setKeys limits now view)⟩

/-- The keys of a user, if they are good still. -/
def tryGetSessionKeys (store : SessionStore) (now : Int) (user : User) :
    SessionStore × KeyStatus × Option SessionKeysView :=
  match store.sessionMap.find user.id with
  | none => (store, .undefined, none)
  | some session =>
    let (session, result) := session.tryGetKeyView now
    (⟨store.sessionMap.insert user.id session⟩, result)

/-- The status of the keys of a user; a session is made for a new one. -/
def getSessionKeyStatus (store : SessionStore) (now : Int) (user : User) :
    SessionStore × KeyStatus :=
  match store.sessionMap.find user.id with
  | none => (⟨store.sessionMap.insert user.id .initial⟩, .notInit)
  | some session =>
    let (session, result) := session.getKeyStatus now
    (⟨store.sessionMap.insert user.id session⟩, result)

end SessionStore

/-! ## Runs -/

/-- What is noted of the keys. -/
inductive KeyNote where
  | installed (user : User) (keys : SessionKeysView) (now : Int)
  | returned (user : User) (keys : SessionKeysView) (now : Int)
  | refused (user : User)
  | verified (user : User)
  | invalidated (user : User)
  | cleared
  deriving DecidableEq, Repr

/-- A store at a time, with the notes taken so far. -/
structure StoreRun where
  store : SessionStore
  now : Int
  log : List KeyNote

/-- What happens to the store of an outstation.  The keys are looked up for a challenge reply, and
the use of them is counted when the reply is authentic. -/
inductive StoreEvent where
  | timePasses (duration : Nat)
  | setSessionKeys (user : User) (view : SessionKeysView)
  | tryGetSessionKeys (user : User)
  | challengeReply (user : User) (verifyAuthenticity : SessionKeysView → Bool)
  | getSessionKeyStatus (user : User)
  | incrementAuthCount (user : User)
  | invalidate (user : User)
  | clear

namespace StoreRun

variable (limits : SessionLimits)

/-- A store that nothing was done with. -/
def initial (now : Int) : StoreRun := ⟨.empty, now, []⟩

/-- Look the keys up. -/
def tryGet (r : StoreRun) (user : User) : StoreRun × Option SessionKeysView :=
  let (store, _, keys) := r.store.tryGetSessionKeys r.now user
  ({ r with
      store := store
      log := r.log ++ [match keys with
        | some keys => .returned user keys r.now
        | none => .refused user] }, keys)

/-- Count the use of the keys for a challenge reply. -/
def countReply (r : StoreRun) (user : User) : StoreRun :=
  { r with
    store := (r.store.incrementAuthCount limits user).1
    log := r.log ++ [.verified user] }

/-- What a challenge reply does to the keys. -/
def challengeReply (r : StoreRun) (user : User) (verifyAuthenticity : SessionKeysView → Bool) :
    StoreRun :=
  match r.tryGet user with
  | (r, none) => r
  | (r, some keys) => if verifyAuthenticity keys then r.countReply limits user else r

/-- Something is asked of the store, or time passes. -/
def step (r : StoreRun) : StoreEvent → StoreRun
  | .timePasses duration => { r with now := r.now + duration }
  | .setSessionKeys user view =>
    { r with
      store := r.store.setSessionKeys limits r.now user view
      log := r.log ++ [.installed user view.stored r.now] }
  | .tryGetSessionKeys user => (r.tryGet user).1
  | .challengeReply user verifyAuthenticity => r.challengeReply limits user verifyAuthenticity
  | .getSessionKeyStatus user => { r with store := (r.store.getSessionKeyStatus r.now user).1 }
  | .incrementAuthCount user => { r with store := (r.store.incrementAuthCount limits user).1 }
  | .invalidate user =>
    { r with store := (r.store.invalidate user).1, log := r.log ++ [.invalidated user] }
  | .clear => { r with store := r.store.clear, log := r.log ++ [.cleared] }

end StoreRun

/-! ## The ledger -/

/-- The account of installed keys. -/
structure KeyAccount where
  keys : SessionKeysView
  expirationTime : Int
  verified : Nat

/-- The open accounts of the users. -/
abbrev KeyBooks := UInt16 → Option KeyAccount

/-- The ledger of the keys: an account is opened by an installation, and closed by a refusal, an
invalidation or a clearing. -/
def keyLedger (limits : SessionLimits) : Observer KeyBooks KeyNote where
  allows books
    | .returned user keys now =>
      ∃ account, books user.id = some account ∧ account.keys = keys ∧ now ≤ account.expirationTime
    | .verified user =>
      ∃ account, books user.id = some account ∧
        account.verified < limits.maxAuthMessageCount.toNat
    | _ => True
  next books
    | .installed user keys now => Function.update books user.id
        (some ⟨keys, MonotonicTimestamp.add now limits.sessionKeyValidity, 0⟩)
    | .returned _ _ _ => books
    | .refused user => Function.update books user.id none
    | .verified user => Function.update books user.id
        ((books user.id).map fun account => { account with verified := account.verified + 1 })
    | .invalidated user => Function.update books user.id none
    | .cleared => fun _ => none

/-! ## Accounts and sessions -/

variable {limits : SessionLimits}

/-- A session whose keys are good has an account, which has booked no more replies than the session
has counted. -/
def Backs (limits : SessionLimits) (account : Option KeyAccount) (s : Session) : Prop :=
  s.status = .ok → ∃ a, account = some a ∧ a.keys = s.keys ∧ a.expirationTime = s.expirationTime ∧
    a.verified ≤ s.authCount.toNat ∧ s.authCount < limits.maxAuthMessageCount

theorem backs_of_ne_ok {account : Option KeyAccount} {s : Session} (h : s.status ≠ .ok) :
    Backs limits account s := fun hok => absurd hok h

/-- The keys of a session are good until they expire. -/
theorem checkTimeValidity_cases (s : Session) (now : Int) :
    (s.status = .ok ∧ now ≤ s.expirationTime ∧ s.checkTimeValidity now = (s, .ok)) ∨
      (s.checkTimeValidity now).1.status ≠ .ok ∧ (s.checkTimeValidity now).2 ≠ .ok := by
  rw [Session.checkTimeValidity]
  by_cases hok : s.status = .ok
  · by_cases hexpired : s.expirationTime < now
    · rw [if_pos ⟨hok, hexpired⟩]
      exact .inr ⟨by simp, by simp⟩
    · rw [if_neg fun h => hexpired h.2]
      exact .inl ⟨hok, Int.not_lt.mp hexpired, by rw [hok]⟩
  · rw [if_neg fun h => hok h.1]
    exact .inr ⟨hok, hok⟩

theorem Backs.checkTimeValidity {account : Option KeyAccount} {s : Session}
    (h : Backs limits account s) (now : Int) :
    Backs limits account (s.checkTimeValidity now).1 := by
  rcases checkTimeValidity_cases s now with ⟨_, _, hsame⟩ | ⟨hbad, _⟩
  · rw [hsame]
    exact h
  · exact backs_of_ne_ok hbad

/-- Keys that are installed have a new account. -/
theorem backs_setKeys (hmax : 0 < limits.maxAuthMessageCount) (s : Session) (now : Int)
    (view : SessionKeysView) :
    Backs limits (some ⟨view.stored, MonotonicTimestamp.add now limits.sessionKeyValidity, 0⟩)
      (s.setKeys limits now view) :=
  fun _ => ⟨_, rfl, rfl, rfl, Nat.zero_le _, hmax⟩

/-- A use of the keys is counted, and may be booked. -/
theorem Backs.incrementAuthCount {a : KeyAccount} {s : Session} (h : Backs limits (some a) s)
    {verified : Nat} (hverified : verified ≤ a.verified + 1) :
    Backs limits (some { a with verified := verified }) (s.incrementAuthCount limits).1 := by
  rw [Session.incrementAuthCount]
  by_cases hok : s.status = .ok
  · rw [if_pos hok]
    dsimp only
    by_cases hlimit : s.authCount + 1 ≥ limits.maxAuthMessageCount
    · rw [if_pos hlimit]
      exact backs_of_ne_ok (by simp)
    rw [if_neg hlimit]
    intro _
    obtain ⟨a', ha', hkeys, hexpiration, hbooked, hcount⟩ := h hok
    obtain rfl := Option.some.inj ha'
    have hbelow := UInt32.lt_iff_toNat_lt.mp (UInt32.not_le.mp hlimit)
    have hless := UInt32.lt_iff_toNat_lt.mp hcount
    have hnext : (s.authCount + 1).toNat = s.authCount.toNat + 1 := by
      have hmax := limits.maxAuthMessageCount.toNat_lt
      rw [UInt32.toNat_add]
      exact Nat.mod_eq_of_lt (show s.authCount.toNat + 1 < 2 ^ 32 by omega)
    refine ⟨_, rfl, hkeys, hexpiration, ?_, UInt32.not_le.mp hlimit⟩
    show verified ≤ (s.authCount + 1).toNat
    omega
  · rw [if_neg hok]
    exact backs_of_ne_ok hok

/-- Every session is backed by the books. -/
def Backed (limits : SessionLimits) (books : KeyBooks) (store : SessionStore) : Prop :=
  ∀ id s, store.sessionMap.find id = some s → Backs limits (books id) s

/-- One session and its account change. -/
theorem Backed.insert {books books' : KeyBooks} {store : SessionStore}
    (h : Backed limits books store) {id : UInt16} {s : Session}
    (hbooks : ∀ other, other ≠ id → books' other = books other)
    (hs : Backs limits (books' id) s) :
    Backed limits books' ⟨store.sessionMap.insert id s⟩ := by
  intro other found hfound
  rw [OrderedMap.find_insert] at hfound
  split_ifs at hfound with hsame
  · obtain rfl := Option.some.inj hfound
    rw [hsame]
    exact hs
  · rw [hbooks other hsame]
    exact h other found hfound

/-- The account of a user whose keys are not good is closed. -/
theorem Backed.close {books : KeyBooks} {store : SessionStore} (h : Backed limits books store)
    {id : UInt16} (hbad : ∀ s, store.sessionMap.find id = some s → s.status ≠ .ok) :
    Backed limits (Function.update books id none) store := by
  intro other found hfound
  by_cases hsame : other = id
  · subst hsame
    exact backs_of_ne_ok (hbad found hfound)
  · rw [Function.update_of_ne hsame]
    exact h other found hfound

/-! ## The ledger accepts every run -/

/-- The books of a run. -/
def StoreRun.books (limits : SessionLimits) (r : StoreRun) : KeyBooks :=
  (keyLedger limits).after (fun _ => none) r.log

/-- The ledger has accepted the notes, and the sessions are backed by its books. -/
structure StoreRun.Booked (limits : SessionLimits) (r : StoreRun) : Prop where
  accepted : (keyLedger limits).Accepts (fun _ => none) r.log
  backed : Backed limits (r.books limits) r.store

namespace StoreRun

variable {r : StoreRun}

theorem Booked.note (h : r.Booked limits) {note : KeyNote} {store : SessionStore}
    (hallows : (keyLedger limits).allows (r.books limits) note)
    (hbacked : Backed limits ((keyLedger limits).next (r.books limits) note) store) :
    Booked limits { r with store := store, log := r.log ++ [note] } where
  accepted := (keyLedger limits).accepts_concat h.accepted hallows
  backed := by
    rw [books, Observer.after_concat]
    exact hbacked

/-- A change of a session that keeps what its account says. -/
theorem Booked.keep (h : r.Booked limits) {store : SessionStore}
    (hbacked : Backed limits (r.books limits) store) : Booked limits { r with store := store } :=
  ⟨h.accepted, hbacked⟩

theorem booked_setSessionKeys (hmax : 0 < limits.maxAuthMessageCount) (h : r.Booked limits)
    (user : User) (view : SessionKeysView) :
    (r.step limits (.setSessionKeys user view)).Booked limits := by
  refine h.note trivial (h.backed.insert (fun other hother => ?_) ?_)
  · exact Function.update_of_ne hother ..
  · show Backs limits (Function.update (r.books limits) user.id _ user.id) _
    rw [Function.update_self]
    exact backs_setKeys hmax _ _ _

theorem booked_incrementAuthCount (h : r.Booked limits) (user : User) :
    (r.step limits (.incrementAuthCount user)).Booked limits := by
  refine h.keep ?_
  rw [SessionStore.incrementAuthCount]
  cases hfind : r.store.sessionMap.find user.id with
  | none => exact h.backed
  | some s =>
    have hs := h.backed user.id s hfind
    refine h.backed.insert (fun _ _ => rfl) ?_
    by_cases hok : s.status = .ok
    · obtain ⟨a, ha, -⟩ := hs hok
      rw [ha] at hs ⊢
      exact hs.incrementAuthCount (Nat.le_add_right a.verified 1)
    · rw [Session.incrementAuthCount, if_neg hok]
      exact backs_of_ne_ok hok

theorem booked_getSessionKeyStatus (h : r.Booked limits) (user : User) :
    (r.step limits (.getSessionKeyStatus user)).Booked limits := by
  refine h.keep ?_
  rw [SessionStore.getSessionKeyStatus]
  cases hfind : r.store.sessionMap.find user.id with
  | none => exact h.backed.insert (fun _ _ => rfl) (backs_of_ne_ok (by simp [Session.initial]))
  | some s =>
    exact h.backed.insert (fun _ _ => rfl) ((h.backed user.id s hfind).checkTimeValidity r.now)

theorem booked_invalidate (h : r.Booked limits) (user : User) :
    (r.step limits (.invalidate user)).Booked limits := by
  refine h.note trivial ?_
  show Backed limits (Function.update (r.books limits) user.id none) _
  rw [SessionStore.invalidate]
  cases hfind : r.store.sessionMap.find user.id with
  | none =>
    refine h.backed.close fun s hs => ?_
    rw [hfind] at hs
    cases hs
  | some s =>
    intro other found hfound
    rw [OrderedMap.find_erase] at hfound
    split_ifs at hfound with hsame
    rw [Function.update_of_ne hsame]
    exact h.backed other found hfound

theorem tryGet_of_find {user : User} {s : Session}
    (hfind : r.store.sessionMap.find user.id = some s) :
    r.tryGet user =
      ({ r with
          store := ⟨r.store.sessionMap.insert user.id (s.tryGetKeyView r.now).1⟩
          log := r.log ++ [match (s.tryGetKeyView r.now).2.2 with
            | some keys => .returned user keys r.now
            | none => .refused user] }, (s.tryGetKeyView r.now).2.2) := by
  rw [tryGet, SessionStore.tryGetSessionKeys, hfind]

/-- Keys that are looked up are returned from an open account; keys that are refused have none. -/
theorem booked_tryGet (h : r.Booked limits) (user : User) :
    (r.tryGet user).1.Booked limits ∧ ∀ keys, (r.tryGet user).2 = some keys →
      ∃ s, (r.tryGet user).1.store.sessionMap.find user.id = some s ∧ s.status = .ok := by
  cases hfind : r.store.sessionMap.find user.id with
  | none =>
    rw [tryGet, SessionStore.tryGetSessionKeys, hfind]
    refine ⟨h.note trivial (h.backed.close fun s hs => ?_), fun keys hkeys => ?_⟩
    · rw [hfind] at hs
      cases hs
    · cases hkeys
  | some s =>
    have hs := h.backed user.id s hfind
    rw [tryGet_of_find hfind]
    rcases checkTimeValidity_cases s r.now with ⟨hok, htime, hsame⟩ | ⟨hbad, hresult⟩
    · have hget : s.tryGetKeyView r.now = (s, .ok, some s.keys) := by
        rw [Session.tryGetKeyView, hsame]
        rfl
      obtain ⟨a, ha, hkeys, hexpiration, -⟩ := hs hok
      rw [hget]
      refine ⟨h.note ⟨a, ha, hkeys, hexpiration ▸ htime⟩
        (h.backed.insert (fun _ _ => rfl) hs), fun _ _ => ⟨s, ?_, hok⟩⟩
      exact (OrderedMap.find_insert ..).trans (if_pos rfl)
    · have hget : (s.tryGetKeyView r.now).2.2 = none := by
        rw [Session.tryGetKeyView]
        exact if_neg hresult
      have hsession : (s.tryGetKeyView r.now).1 = (s.checkTimeValidity r.now).1 := rfl
      rw [hget, hsession]
      refine ⟨h.note trivial (h.backed.insert (fun other hother => ?_) (backs_of_ne_ok hbad)),
        fun keys hkeys => ?_⟩
      · exact Function.update_of_ne hother ..
      · cases hkeys

/-- A reply that is verified by good keys may be booked. -/
theorem booked_countReply (h : r.Booked limits) {user : User} {s : Session}
    (hfind : r.store.sessionMap.find user.id = some s) (hok : s.status = .ok) :
    (r.countReply limits user).Booked limits := by
  have hs := h.backed user.id s hfind
  obtain ⟨a, ha, -, -, hbooked, hcount⟩ := hs hok
  have hless := UInt32.lt_iff_toNat_lt.mp hcount
  refine h.note ⟨a, ha, by omega⟩ ?_
  rw [SessionStore.incrementAuthCount, hfind]
  refine h.backed.insert (fun other hother => ?_) ?_
  · exact Function.update_of_ne hother ..
  · rw [ha] at hs
    show Backs limits (Function.update (r.books limits) user.id _ user.id) _
    rw [Function.update_self, ha]
    exact hs.incrementAuthCount (Nat.le_refl _)

theorem booked_challengeReply (h : r.Booked limits) (user : User)
    (verifyAuthenticity : SessionKeysView → Bool) :
    (r.challengeReply limits user verifyAuthenticity).Booked limits := by
  obtain ⟨hbooked, hgood⟩ := booked_tryGet h user
  rw [challengeReply]
  rcases hget : r.tryGet user with ⟨r', keys⟩
  rw [hget] at hbooked hgood
  cases keys with
  | none => exact hbooked
  | some keys =>
    dsimp only
    split_ifs
    · obtain ⟨s, hfind, hok⟩ := hgood keys rfl
      exact booked_countReply hbooked hfind hok
    · exact hbooked

/-- Every event keeps the books. -/
theorem booked_step (hmax : 0 < limits.maxAuthMessageCount) (h : r.Booked limits)
    (e : StoreEvent) : (r.step limits e).Booked limits := by
  cases e with
  | timePasses duration => exact ⟨h.accepted, h.backed⟩
  | setSessionKeys user view => exact booked_setSessionKeys hmax h user view
  | tryGetSessionKeys user => exact (booked_tryGet h user).1
  | challengeReply user verifyAuthenticity => exact booked_challengeReply h user verifyAuthenticity
  | getSessionKeyStatus user => exact booked_getSessionKeyStatus h user
  | incrementAuthCount user => exact booked_incrementAuthCount h user
  | invalidate user => exact booked_invalidate h user
  | clear =>
    refine h.note trivial fun id s hs => ?_
    cases hs

/-- **The ledger accepts every run** of a store with a positive limit: keys are returned only from
their installation until they are refused, invalidated or cleared, and not after they expire, and
they verify no more replies than the limit. -/
theorem keyLedger_accepts (hmax : 0 < limits.maxAuthMessageCount) (now : Int)
    (events : List StoreEvent) :
    (keyLedger limits).Accepts (fun _ => none)
      (run (step limits) (StoreRun.initial now) events).log := by
  have hinitial : (StoreRun.initial now).Booked limits := by
    refine ⟨trivial, fun id s hs => ?_⟩
    cases hs
  exact (run_keeps (I := Booked limits) (fun _ e h => booked_step hmax h e) events
    hinitial).accepted

/-- Keys for one reply, and two replies. -/
theorem keyLedger_accepts_one :
    (keyLedger ⟨1000, 1⟩).Accepts (fun _ => none)
      (run (step ⟨1000, 1⟩) (StoreRun.initial 0)
        [.setSessionKeys .default ⟨[1], [2]⟩, .challengeReply .default fun _ => true,
          .challengeReply .default fun _ => true]).log :=
  @keyLedger_accepts ⟨1000, 1⟩ (by decide) 0 _

/-- The second of two replies is refused. -/
example :
    (run (step ⟨1000, 1⟩) (StoreRun.initial 0)
        [.setSessionKeys .default ⟨[1], [2]⟩, .challengeReply .default fun _ => true,
          .challengeReply .default fun _ => true]).log =
      [.installed .default ⟨[1], [2]⟩ 0, .returned .default ⟨[1], [2]⟩ 0, .verified .default,
        .refused .default] := by decide

end StoreRun

end Secauth
end Dnp3
