import Dnp3.App.Group120
import Dnp3.Library.OrderedMap

/-!
# The users of an outstation

`OutstationUserDatabase` keeps the users of an outstation in a map that is ordered by their ids.
`FindFreeUserId` walks the map with the lowest id it has not met yet, starting at the lowest
admissible one, and stops at the first gap.  The candidate is a number of sixteen bits: when all ids
up to the last one are in use it starts over at zero, and zero is handed out when nobody has it
(`allocatesLowest_iff`).

A user is stored with a name, permissions and an update key, and is found by the id in a request.
`lowestFree` is the loop as a function on the sorted ids, and `lowestFree_spec` says where it stops.
What the source promises, the lowest admissible id that is free, is compared with it for every table
in `allocatesLowest_iff`; the last theorem is the table in which the promise fails.
-/

namespace Dnp3
namespace Secauth

open App Library

/-! ## Users -/

/-- A user is a number. -/
structure User where
  id : UInt16
  deriving DecidableEq, Repr

namespace User

/-- The number of the unknown user. -/
def UNKNOWN_ID : UInt16 := 0

/-- The number of the default user. -/
def DEFAULT_ID : UInt16 := 1

/-- The default user. -/
def default : User := ⟨DEFAULT_ID⟩

/-- The unknown user, whom an error names that is about nobody. -/
def unknown : User := ⟨UNKNOWN_ID⟩

end User

/-- An update key; its bytes are the first ones of the buffer. -/
structure UpdateKey where
  algorithm : KeyWrapAlgorithm
  buffer : Vector UInt8 32
  deriving DecidableEq, Repr

namespace UpdateKey

/-- The octets of a key for AES-128. -/
def UPDATE_KEY_SIZE_128 : Nat := 16

/-- The octets of a key for AES-256. -/
def UPDATE_KEY_SIZE_256 : Nat := 32

/-- A view of an update key. -/
structure View where
  algorithm : KeyWrapAlgorithm
  data : List UInt8
  deriving DecidableEq, Repr

/-- The octets of a key for the algorithm. -/
def getSize : KeyWrapAlgorithm → Nat
  | .aes128 => UPDATE_KEY_SIZE_128
  | .aes256 => UPDATE_KEY_SIZE_256
  | .undefined => 0

/-- The key without what is left of its buffer. -/
def getView (key : UpdateKey) : View :=
  { algorithm := key.algorithm, data := key.buffer.toList.take (getSize key.algorithm) }

/-- The key was set. -/
def isValid (key : UpdateKey) : Bool := key.algorithm ≠ .undefined

/-- A key that is the same in every byte. -/
def repeated (byte : UInt8) (algorithm : KeyWrapAlgorithm) : UpdateKey :=
  { algorithm := algorithm, buffer := .replicate 32 byte }

end UpdateKey

/-- The function codes a user may use. -/
structure Permissions where
  permissions : UInt64
  deriving DecidableEq, Repr

namespace Permissions

/-- The mask with one bit. -/
def bit (n : UInt64) : UInt64 := 1 <<< n

/-- The bit that stands for a function. -/
def getMask : FunctionCode → UInt64
  | .confirm => bit 0
  | .read => bit 1
  | .write => bit 2
  | .select => bit 3
  | .operate => bit 4
  | .directOperate => bit 5
  | .directOperateNr => bit 6
  | .immedFreeze => bit 7
  | .immedFreezeNr => bit 8
  | .freezeClear => bit 9
  | .freezeClearNr => bit 10
  | .freezeAtTime => bit 11
  | .freezeAtTimeNr => bit 12
  | .coldRestart => bit 13
  | .warmRestart => bit 14
  | .initializeData => bit 15
  | .initializeApplication => bit 16
  | .startApplication => bit 17
  | .stopApplication => bit 18
  | .saveConfiguration => bit 19
  | .enableUnsolicited => bit 20
  | .disableUnsolicited => bit 21
  | .assignClass => bit 22
  | .delayMeasure => bit 23
  | .recordCurrentTime => bit 24
  | .openFile => bit 25
  | .closeFile => bit 26
  | .deleteFile => bit 27
  | .getFileInfo => bit 28
  | .authenticateFile => bit 29
  | .abortFile => bit 30
  | _ => 0

/-- Nothing is permitted. -/
def allowNothing : Permissions := ⟨0⟩

/-- The function is permitted. -/
def isAllowed (p : Permissions) (code : FunctionCode) : Bool := getMask code &&& p.permissions ≠ 0

end Permissions

/-- What is stored of a user. -/
structure OutstationUserInfo where
  user : User
  username : String
  permissions : Permissions
  updateKey : UpdateKey
  deriving DecidableEq, Repr

/-! ## The database -/

/-- The users by their ids. -/
structure OutstationUserDatabase where
  userMap : OrderedMap UInt16 OutstationUserInfo

namespace OutstationUserDatabase

/-- No user is stored. -/
def empty : OutstationUserDatabase := ⟨.empty⟩

/-- The update key of a user; that of an unknown user has no algorithm. -/
def getUpdateKeyView (db : OutstationUserDatabase) (user : User) : UpdateKey.View :=
  match db.userMap.find user.id with
  | none => { algorithm := .undefined, data := [] }
  | some info => info.updateKey.getView

/-- The user is stored, and may use the function. -/
def isAuthorized (db : OutstationUserDatabase) (user : User) (code : FunctionCode) : Bool :=
  match db.userMap.find user.id with
  | none => false
  | some info => info.permissions.isAllowed code

/-- The first user with a name. -/
def findByName (db : OutstationUserDatabase) (userName : String) :
    Option (UInt16 × OutstationUserInfo) :=
  db.userMap.entries.find? fun e => e.2.username == userName

/-- A user has the name. -/
def userNameExists (db : OutstationUserDatabase) (userName : String) : Bool :=
  (db.findByName userName).isSome

/-- Remove the user with a name, and return it. -/
def delete (db : OutstationUserDatabase) (userName : String) :
    Option (OutstationUserDatabase × User) :=
  (db.findByName userName).map fun e => (⟨db.userMap.erase e.1⟩, ⟨e.1⟩)

/-- A user with a valid key is stored under its id. -/
def addUser (db : OutstationUserDatabase) (info : OutstationUserInfo) : OutstationUserDatabase :=
  if info.updateKey.isValid then ⟨db.userMap.insert info.user.id info⟩ else db

/-- The loop of `FindFreeUserId`. -/
def lowestFree {α : Type} : UInt16 → List (UInt16 × α) → UInt16
  | lowest, [] => lowest
  | lowest, e :: rest =>
    if e.1 < lowest then lowestFree lowest rest
    else if e.1 > lowest then lowest
    else lowestFree (lowest + 1) rest

/-- The lowest admissible id that is not in use; the candidate is of sixteen bits. -/
def findFreeUserId (db : OutstationUserDatabase) : Option User :=
  let lowest := lowestFree 2 db.userMap.entries
  if (db.userMap.find lowest).isNone then some ⟨lowest⟩ else none

/-! ## The walk -/

/-- Where the walk over increasing ids ends: at the first gap, or at zero when there is none. -/
theorem lowestFree_spec {α : Type} (lowest : UInt16) {entries : List (UInt16 × α)}
    (hsorted : entries.Pairwise fun a b => a.1 < b.1) :
    (lowest ≤ lowestFree lowest entries ∧ lowestFree lowest entries ∉ entries.map Prod.fst ∧
      ∀ id, lowest ≤ id → id < lowestFree lowest entries → id ∈ entries.map Prod.fst) ∨
    lowestFree lowest entries = 0 ∧ ∀ id, lowest ≤ id → id ∈ entries.map Prod.fst := by
  induction entries generalizing lowest with
  | nil =>
    refine .inl ⟨UInt16.le_refl _, List.not_mem_nil, fun id hle hlt => ?_⟩
    exact absurd hlt (UInt16.not_lt.mpr hle)
  | cons e rest ih =>
    obtain ⟨hfirst, hrest⟩ := List.pairwise_cons.mp hsorted
    rw [lowestFree, List.map_cons]
    split_ifs with hbelow habove
    · rcases ih lowest hrest with ⟨hle, hfree, hused⟩ | ⟨hzero, hused⟩
      · refine .inl ⟨hle, ?_, fun id hid hlt => List.mem_cons_of_mem _ (hused id hid hlt)⟩
        rw [List.mem_cons, not_or]
        exact ⟨fun heq => UInt16.not_lt.mpr hle (heq ▸ hbelow), hfree⟩
      · exact .inr ⟨hzero, fun id hid => List.mem_cons_of_mem _ (hused id hid)⟩
    · refine .inl ⟨UInt16.le_refl _, ?_, fun id hle hlt => absurd hlt (UInt16.not_lt.mpr hle)⟩
      rw [List.mem_cons, not_or, List.mem_map]
      refine ⟨fun heq => UInt16.lt_irrefl _ (heq ▸ habove), ?_⟩
      rintro ⟨next, hmem, rfl⟩
      exact UInt16.lt_irrefl _ (UInt16.lt_trans habove (hfirst next hmem))
    · obtain rfl : e.1 = lowest :=
        UInt16.le_antisymm (UInt16.not_lt.mp habove) (UInt16.not_lt.mp hbelow)
      by_cases hlast : e.1 = 65535
      · -- the candidate starts over, and no id follows the last one
        have hnone : rest = [] := by
          refine List.eq_nil_iff_forall_not_mem.mpr fun next hmem => ?_
          have hlt := UInt16.lt_iff_toNat_lt.mp (hfirst next hmem)
          have hmax := next.1.toNat_lt
          rw [hlast] at hlt
          have hvalue : (65535 : UInt16).toNat = 65535 := rfl
          omega
        refine .inr ⟨?_, fun id hid => ?_⟩
        · rw [hnone, lowestFree, hlast]
          rfl
        · have hmax := id.toNat_lt
          have hle := UInt16.le_iff_toNat_le.mp hid
          have hvalue : (65535 : UInt16).toNat = 65535 := rfl
          rw [hlast] at hle ⊢
          rw [UInt16.toNat_inj.mp (show id.toNat = (65535 : UInt16).toNat by omega)]
          exact List.mem_cons_self
      · have hnext : (e.1 + 1).toNat = e.1.toNat + 1 := by
          have hmax := e.1.toNat_lt
          have hne : e.1.toNat ≠ 65535 := fun heq => hlast (UInt16.toNat_inj.mp heq)
          rw [UInt16.toNat_add]
          exact Nat.mod_eq_of_lt (show e.1.toNat + 1 < 2 ^ 16 by omega)
        have hsplit : ∀ id : UInt16, e.1 ≤ id → id = e.1 ∨ e.1 + 1 ≤ id := by
          intro id hid
          rw [UInt16.le_iff_toNat_le] at hid ⊢
          rcases Nat.eq_or_lt_of_le hid with heq | hlt
          · exact .inl (UInt16.toNat_inj.mp heq.symm)
          · exact .inr (by omega)
        have hstep : e.1 < e.1 + 1 := by
          rw [UInt16.lt_iff_toNat_lt]
          omega
        rcases ih (e.1 + 1) hrest with ⟨hle, hfree, hused⟩ | ⟨hzero, hused⟩
        · have hlt' := UInt16.lt_of_lt_of_le hstep hle
          refine .inl ⟨UInt16.le_of_lt hlt', ?_, fun id hid hlt => ?_⟩
          · rw [List.mem_cons, not_or]
            refine ⟨fun heq => ?_, hfree⟩
            rw [heq] at hlt'
            exact UInt16.lt_irrefl _ hlt'
          · rcases hsplit id hid with rfl | hid
            · exact List.mem_cons_self
            · exact List.mem_cons_of_mem _ (hused id hid hlt)
        · refine .inr ⟨hzero, fun id hid => ?_⟩
          rcases hsplit id hid with rfl | hid
          · exact List.mem_cons_self
          · exact List.mem_cons_of_mem _ (hused id hid)

/-! ## Allocating ids -/

/-- The id is in use. -/
def Used (db : OutstationUserDatabase) (id : UInt16) : Prop := id ∈ db.userMap.keys

instance (db : OutstationUserDatabase) (id : UInt16) : Decidable (db.Used id) :=
  inferInstanceAs (Decidable (id ∈ db.userMap.keys))

/-- A free id is found exactly when there is one from the lowest admissible id on, and then it is
the lowest. -/
def AllocatesLowest (db : OutstationUserDatabase) : Prop :=
  (db.findFreeUserId.isSome = true ↔ ∃ id, 2 ≤ id ∧ ¬ db.Used id) ∧
    ∀ user, db.findFreeUserId = some user →
      2 ≤ user.id ∧ ¬ db.Used user.id ∧ ∀ id, 2 ≤ id → id < user.id → db.Used id

theorem findFreeUserId_eq (db : OutstationUserDatabase) :
    db.findFreeUserId =
      if lowestFree 2 db.userMap.entries ∈ db.userMap.keys then none
      else some ⟨lowestFree 2 db.userMap.entries⟩ := by
  rw [findFreeUserId]
  by_cases h : lowestFree 2 db.userMap.entries ∈ db.userMap.keys
  · rw [if_pos h, if_neg ((db.userMap.find_isNone_iff _).not.mpr (not_not.mpr h))]
  · rw [if_neg h, if_pos ((db.userMap.find_isNone_iff _).mpr h)]

/-- When no admissible id is free, zero is handed out unless it is in use. -/
theorem findFreeUserId_of_full {db : OutstationUserDatabase} (h : ∀ id, 2 ≤ id → db.Used id) :
    db.findFreeUserId = if db.Used 0 then none else some ⟨0⟩ := by
  rcases lowestFree_spec 2 db.userMap.sorted with ⟨hle, hfree, -⟩ | ⟨hzero, -⟩
  · exact absurd (h _ hle) hfree
  · rw [findFreeUserId_eq, hzero]
    rfl

/-- **The allocation is right** exactly when an admissible id is free or zero is in use. -/
theorem allocatesLowest_iff (db : OutstationUserDatabase) :
    db.AllocatesLowest ↔ (∃ id, 2 ≤ id ∧ ¬ db.Used id) ∨ db.Used 0 := by
  rcases lowestFree_spec 2 db.userMap.sorted with ⟨hle, hfree, hused⟩ | ⟨-, hused⟩
  · have hfound : db.findFreeUserId = some ⟨lowestFree 2 db.userMap.entries⟩ := by
      rw [findFreeUserId_eq]
      exact if_neg hfree
    refine iff_of_true ⟨iff_of_true (by rw [hfound]; rfl) ⟨_, hle, hfree⟩, fun user huser => ?_⟩
      (.inl ⟨_, hle, hfree⟩)
    obtain rfl := Option.some.inj (hfound.symm.trans huser)
    exact ⟨hle, hfree, hused⟩
  · have hnone : ¬ ∃ id, 2 ≤ id ∧ ¬ db.Used id := by
      rintro ⟨id, hid, hfree⟩
      exact hfree (hused id hid)
    have hfull := findFreeUserId_of_full hused
    by_cases hzero : db.Used 0
    · rw [if_pos hzero] at hfull
      refine iff_of_true ⟨iff_of_false (by rw [hfull]; exact Bool.false_ne_true) hnone, ?_⟩
        (.inr hzero)
      intro user huser
      rw [hfull] at huser
      cases huser
    · rw [if_neg hzero] at hfull
      refine iff_of_false (fun hright => hnone ?_) (not_or.mpr ⟨hnone, hzero⟩)
      exact hright.1.mp (by rw [hfull]; rfl)

/-! ## Adding users -/

theorem used_addUser {db : OutstationUserDatabase} {info : OutstationUserInfo}
    (hvalid : info.updateKey.isValid = true) (id : UInt16) :
    (db.addUser info).Used id ↔ id = info.user.id ∨ db.Used id := by
  rw [Used, addUser, if_pos hvalid]
  exact OrderedMap.mem_keys_insert ..

/-- A user under a free id takes no other user's place. -/
theorem find_addUser_free {db : OutstationUserDatabase} {info : OutstationUserInfo}
    (hfree : db.findFreeUserId = some info.user) {id : UInt16} {other : OutstationUserInfo}
    (hother : db.userMap.find id = some other) :
    (db.addUser info).userMap.find id = some other := by
  rw [addUser]
  split_ifs
  · rw [OrderedMap.find_insert, if_neg, hother]
    rintro rfl
    rw [findFreeUserId_eq] at hfree
    split_ifs at hfree with hused
    have hid : lowestFree 2 db.userMap.entries = info.user.id :=
      congrArg User.id (Option.some.inj hfree)
    refine hused ?_
    rw [hid, ← OrderedMap.contains_iff, OrderedMap.contains, hother]
    rfl
  · exact hother

/-- A user for each of some ids. -/
def addUsers (db : OutstationUserDatabase) (ids : List UInt16) : OutstationUserDatabase :=
  ids.foldl (fun db id => db.addUser ⟨⟨id⟩, "", .allowNothing, .repeated 0xFF .aes128⟩) db

theorem used_addUsers (db : OutstationUserDatabase) (ids : List UInt16) (id : UInt16) :
    (db.addUsers ids).Used id ↔ id ∈ ids ∨ db.Used id := by
  induction ids generalizing db with
  | nil => simp [addUsers]
  | cons first ids ih =>
    rw [addUsers, List.foldl_cons, ← addUsers, ih, used_addUser (by rfl), List.mem_cons]
    tauto

/-- All ids from the lowest admissible one on. -/
def admissibleIds : List UInt16 := (List.range 65534).map fun n => UInt16.ofNat (n + 2)

theorem mem_admissibleIds (id : UInt16) : id ∈ admissibleIds ↔ 2 ≤ id := by
  have hmax := id.toNat_lt
  rw [admissibleIds, List.mem_map, UInt16.le_iff_toNat_le]
  have htwo : (2 : UInt16).toNat = 2 := rfl
  constructor
  · rintro ⟨n, hn, rfl⟩
    rw [List.mem_range] at hn
    rw [UInt16.toNat_ofNat_of_lt' (by rw [UInt16.size]; omega)]
    omega
  · intro hle
    refine ⟨id.toNat - 2, List.mem_range.mpr (by omega), ?_⟩
    rw [show id.toNat - 2 + 2 = id.toNat by omega, UInt16.ofNat_toNat]

/-- With a user under every admissible id the next one gets the id zero. -/
theorem not_allocatesLowest_full : ¬ (empty.addUsers admissibleIds).AllocatesLowest := by
  have hused : ∀ id, 2 ≤ id → (empty.addUsers admissibleIds).Used id := fun id hid =>
    (used_addUsers _ _ id).mpr (.inl ((mem_admissibleIds id).mpr hid))
  have hzero : ¬ (empty.addUsers admissibleIds).Used 0 := by
    rw [used_addUsers, mem_admissibleIds, not_or]
    exact ⟨by decide, List.not_mem_nil⟩
  rintro ⟨hsome, -⟩
  rw [findFreeUserId_of_full hused, if_neg hzero] at hsome
  obtain ⟨id, hid, hfree⟩ := hsome.mp rfl
  exact hfree (hused id hid)

end OutstationUserDatabase
end Secauth
end Dnp3
