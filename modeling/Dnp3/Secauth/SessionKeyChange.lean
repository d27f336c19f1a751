import Dnp3.App.FreeFormat
import Dnp3.Secauth.SessionStore

/-!
# Changing session keys

An outstation answers a request for the status of the session keys with an object that has a
challenge in it.  The master puts that object behind a new pair of keys, fills up to a multiple of
eight bytes, and wraps everything with the update key of the user; the outstation unwraps it, takes
the keys from the front and compares what follows with the object that it has sent last.

The buffer for the wrapped data has the size of the buffer for the data, although wrapping adds
eight bytes, so that data whose last fields did not fit are not wrapped either
(`length_le_of_wrap`).
-/

namespace Dnp3
namespace App

open Library

/-- The memory when all bytes from the position on have one value. -/
def WSlice.setAllTo (w : WSlice) (value : UInt8) : List UInt8 :=
  w.written ++ List.replicate w.size value

/-- Fields that fit are written one behind the other. -/
theorem WSlice.written_foldl_write (w : WSlice) (fields : List (List UInt8))
    (h : fields.flatten.length ≤ w.size) :
    (fields.foldl write w).written = w.written ++ fields.flatten ∧
      (fields.foldl write w).size = w.size - fields.flatten.length := by
  induction fields generalizing w with
  | nil => exact ⟨(List.append_nil _).symm, rfl⟩
  | cons field fields ih =>
    rw [List.flatten_cons, List.length_append] at h
    have hfield : field.length ≤ w.size := by omega
    have hsize := size_write hfield
    obtain ⟨hwritten, hrest⟩ := ih (w.write field) (by omega)
    rw [List.foldl_cons, hwritten, hrest, written_write hfield, hsize, List.flatten_cons,
      List.append_assoc, List.length_append, Nat.sub_sub]
    exact ⟨rfl, rfl⟩

/-- An object is written when there is room for it. -/
theorem VariableLength.write_of_fits {F T : Type} {type : VariableLength F T} {v : T}
    {buffer : WSlice} (hroom : type.byteSize v ≤ buffer.size) (hsize : type.byteSize v < 2 ^ 32)
    (hfits : PrefixFields.lengthFitsInUInt16 (type.fields v) = true) :
    (type.write v buffer).2 = true := by
  have hbytes : type.byteSize v = type.fixed.size +
      (PrefixFields.size (type.fields v) + (type.remainder v).length) := rfl
  have hfixed : (type.fixed.write (type.values v)).length ≤ buffer.size := by
    rw [Codec.length_write]
    omega
  have hafter := WSlice.size_write hfixed
  rw [Codec.length_write] at hafter
  unfold write
  rw [if_neg (by rw [toNat_size, Nat.mod_eq_of_lt hsize]; omega), if_pos hfits]
  unfold PrefixFields.write
  rw [if_neg (by rw [PrefixFields.toNat_totalSize, Nat.mod_eq_of_lt (by omega)]; omega)]
  rfl

theorem WSlice.length_setAllTo (w : WSlice) (value : UInt8) :
    (w.setAllTo value).length = w.mem.length := by
  have hpos := w.pos_le
  rw [setAllTo, List.length_append, length_written, List.length_replicate, size]
  omega

end App

namespace Secauth

open App Library

/-! ## Sizes -/

namespace AuthSizes

/-- The shortest challenge. -/
def MIN_CHALLENGE_DATA_SIZE : Nat := 4

/-- The longest challenge. -/
def MAX_CHALLENGE_DATA_SIZE : Nat := 16

/-- The length of the keys, two keys and a status object, padded to a multiple of eight. -/
def MAX_SESSION_KEY_WRAP_BUFFER_SIZE : Nat := 96

/-- The longest code that is transmitted. -/
def MAX_HMAC_TRUNC_SIZE : Nat := 16

/-- A challenge may have this size. -/
def challengeDataSizeWithinLimits (size : Nat) : Bool :=
  MIN_CHALLENGE_DATA_SIZE ≤ size ∧ size ≤ MAX_CHALLENGE_DATA_SIZE

/-- The nearest size that a challenge may have. -/
def getBoundedChallengeSize (size : Nat) : Nat :=
  if size < MIN_CHALLENGE_DATA_SIZE then MIN_CHALLENGE_DATA_SIZE
  else if MAX_CHALLENGE_DATA_SIZE < size then MAX_CHALLENGE_DATA_SIZE
  else size

theorem getBoundedChallengeSize_le (size : Nat) :
    getBoundedChallengeSize size ≤ MAX_CHALLENGE_DATA_SIZE := by
  unfold getBoundedChallengeSize
  split
  · decide
  · split <;> omega

end AuthSizes

/-! ## Wrapping -/

/-- `AES_wrap_key` and `AES_unwrap_key` with a key that is set first: the bytes they write, if they
succeed. -/
structure AES where
  wrapKey : List UInt8 → List UInt8 → Option (List UInt8)
  unwrapKey : List UInt8 → List UInt8 → Option (List UInt8)

/-- Wrapped data are eight bytes longer, and unwrapping gives the data back. -/
structure AES.Inverts (aes : AES) : Prop where
  length_wrapKey : ∀ {kek input output}, aes.wrapKey kek input = some output →
    output.length = input.length + 8
  unwrapKey_wrapKey : ∀ {kek input output}, aes.wrapKey kek input = some output →
    aes.unwrapKey kek output = some input

namespace AESKeyWrap

/-- The output goes to a buffer of some size. -/
def wrapKey (aes : AES) (kek input : List UInt8) (outputSize : Nat) : Option (List UInt8) :=
  if input.length % 8 ≠ 0 then none
  else if outputSize < input.length + 8 then none
  else aes.wrapKey kek input

/-- The size of the output is computed in 32 bits. -/
def unwrapKey (aes : AES) (kek input : List UInt8) (outputSize : Nat) : Option (List UInt8) :=
  if input.length < 8 ∧ input.length % 8 ≠ 0 then none
  else if outputSize < (UInt32.ofNat input.length - 8).toNat then none
  else aes.unwrapKey kek input

/-- Data that were wrapped are unwrapped in a buffer that has room for them. -/
theorem unwrapKey_wrapKey {aes : AES} (haes : aes.Inverts) {kek input output : List UInt8}
    {size outputSize : Nat} (h : wrapKey aes kek input size = some output)
    (hroom : input.length ≤ outputSize) (hsize : input.length + 8 < 2 ^ 32) :
    unwrapKey aes kek output outputSize = some input := by
  unfold wrapKey at h
  split at h
  · cases h
  · split at h
    · cases h
    · have hlength := haes.length_wrapKey h
      have hoffset : (UInt32.ofNat output.length - 8).toNat = input.length := by
        rw [hlength, UInt32.ofNat_add]
        change (UInt32.ofNat input.length + 8 - 8).toNat = _
        rw [UInt32.add_sub_cancel, UInt32.toNat_ofNat', Nat.mod_eq_of_lt (by omega)]
      unfold unwrapKey
      rw [if_neg (by omega), hoffset, if_neg (by omega)]
      exact haes.unwrapKey_wrapKey h

end AESKeyWrap

namespace KeyWrapBuffer

/-- The size of the data with its padding. -/
def paddedSize (sessionKeys : SessionKeysView) (keyStatus : List UInt8) : Nat :=
  let size := 2 + sessionKeys.totalSize + keyStatus.length
  if size % 8 = 0 then size else size + (8 - size % 8)

/-- The data to be wrapped, in memory that holds anything before: the length of a key, the two keys
and the status of the keys, with zeros behind it.  What has no room is not copied. -/
def dataToWrap (memory : Vector UInt8 AuthSizes.MAX_SESSION_KEY_WRAP_BUFFER_SIZE)
    (sessionKeys : SessionKeysView) (keyStatus : List UInt8) : List UInt8 :=
  let dest := WSlice.ofMemory (memory.toList.take (paddedSize sessionKeys keyStatus))
  ((((dest.write (leBytes 2 sessionKeys.controlKey.length)).write sessionKeys.controlKey).write
    sessionKeys.monitorKey).write keyStatus).setAllTo 0

/-- `Wrap`, with the wrapped data when it succeeds. -/
def wrap (aes : AES) (memory : Vector UInt8 AuthSizes.MAX_SESSION_KEY_WRAP_BUFFER_SIZE)
    (updateKey : List UInt8) (sessionKeys : SessionKeysView) (keyStatus : List UInt8) :
    Option (List UInt8) :=
  if sessionKeys.isValid then
    match AESKeyWrap.wrapKey aes updateKey (dataToWrap memory sessionKeys keyStatus)
      AuthSizes.MAX_SESSION_KEY_WRAP_BUFFER_SIZE with
    | some data => if data.isEmpty then none else some data
    | none => none
  else none

end KeyWrapBuffer

namespace SessionKeyUnwrapBuffer

/-- `Unwrap`: the keys, and what is left behind them. -/
def unwrap (aes : AES) (updateKey inputData : List UInt8) :
    Option (SessionKeysView × List UInt8) :=
  match AESKeyWrap.unwrapKey aes updateKey inputData AuthSizes.MAX_SESSION_KEY_WRAP_BUFFER_SIZE with
  | none => none
  | some unwrapped =>
    if unwrapped.length < 2 then none
    else
      let keyLength := leNat (unwrapped.take 2)
      let rest := unwrapped.drop 2
      if !AuthSizes.sessionKeySizeWithinLimits keyLength then none
      else if rest.length < 2 * keyLength then none
      else
        some ({ controlKey := rest.take keyLength
                monitorKey := (rest.drop keyLength).take keyLength },
          (rest.drop keyLength).drop keyLength)

end SessionKeyUnwrapBuffer

/-! ## What is wrapped -/

theorem length_dataToWrap (memory : Vector UInt8 AuthSizes.MAX_SESSION_KEY_WRAP_BUFFER_SIZE)
    (sessionKeys : SessionKeysView) (keyStatus : List UInt8) :
    (KeyWrapBuffer.dataToWrap memory sessionKeys keyStatus).length =
      min (KeyWrapBuffer.paddedSize sessionKeys keyStatus)
        AuthSizes.MAX_SESSION_KEY_WRAP_BUFFER_SIZE := by
  unfold KeyWrapBuffer.dataToWrap
  dsimp only
  rw [WSlice.length_setAllTo, WSlice.length_mem_write, WSlice.length_mem_write,
    WSlice.length_mem_write, WSlice.length_mem_write]
  exact (List.length_take ..).trans (by rw [Vector.length_toList])

/-- Data that fit are copied whole. -/
theorem dataToWrap_eq (memory : Vector UInt8 AuthSizes.MAX_SESSION_KEY_WRAP_BUFFER_SIZE)
    {sessionKeys : SessionKeysView} {keyStatus : List UInt8}
    (hfits : KeyWrapBuffer.paddedSize sessionKeys keyStatus ≤
      AuthSizes.MAX_SESSION_KEY_WRAP_BUFFER_SIZE) :
    ∃ padding < 8, KeyWrapBuffer.dataToWrap memory sessionKeys keyStatus =
      leBytes 2 sessionKeys.controlKey.length ++ (sessionKeys.controlKey ++
        (sessionKeys.monitorKey ++ (keyStatus ++ List.replicate padding 0))) := by
  have hpadded : ∃ padding < 8, KeyWrapBuffer.paddedSize sessionKeys keyStatus =
      2 + sessionKeys.totalSize + keyStatus.length + padding := by
    unfold KeyWrapBuffer.paddedSize
    dsimp only
    split
    · exact ⟨0, by omega, by omega⟩
    · exact ⟨8 - (2 + sessionKeys.totalSize + keyStatus.length) % 8, by omega, rfl⟩
  obtain ⟨padding, hsmall, hpadded⟩ := hpadded
  refine ⟨padding, hsmall, ?_⟩
  have hsize : (WSlice.ofMemory
      (memory.toList.take (KeyWrapBuffer.paddedSize sessionKeys keyStatus))).size =
      2 + sessionKeys.totalSize + keyStatus.length + padding := by
    change (memory.toList.take (KeyWrapBuffer.paddedSize sessionKeys keyStatus)).length - 0 = _
    rw [List.length_take, Vector.length_toList, Nat.min_eq_left hfits, hpadded, Nat.sub_zero]
  have hfields : [leBytes 2 sessionKeys.controlKey.length, sessionKeys.controlKey,
      sessionKeys.monitorKey, keyStatus].flatten.length =
        2 + sessionKeys.totalSize + keyStatus.length := by
    simp only [List.flatten_cons, List.flatten_nil, List.length_append, length_leBytes,
      List.length_nil, SessionKeysView.totalSize]
    omega
  obtain ⟨hwritten, hrest⟩ := WSlice.written_foldl_write
    (WSlice.ofMemory (memory.toList.take (KeyWrapBuffer.paddedSize sessionKeys keyStatus)))
    [leBytes 2 sessionKeys.controlKey.length, sessionKeys.controlKey, sessionKeys.monitorKey,
      keyStatus] (by omega)
  rw [hfields, hsize, Nat.add_sub_cancel_left] at hrest
  change (List.foldl WSlice.write
    (WSlice.ofMemory (memory.toList.take (KeyWrapBuffer.paddedSize sessionKeys keyStatus)))
    [leBytes 2 sessionKeys.controlKey.length, sessionKeys.controlKey, sessionKeys.monitorKey,
      keyStatus]).setAllTo 0 = _
  rw [WSlice.setAllTo, hrest, hwritten]
  simp only [List.flatten_cons, List.flatten_nil, List.append_assoc, List.append_nil]
  rfl

/-- What is wrapped left eight bytes of the buffer, so it was copied whole. -/
theorem paddedSize_of_wrap {aes : AES}
    {memory : Vector UInt8 AuthSizes.MAX_SESSION_KEY_WRAP_BUFFER_SIZE} {updateKey : List UInt8}
    {sessionKeys : SessionKeysView} {keyStatus data : List UInt8}
    (h : KeyWrapBuffer.wrap aes memory updateKey sessionKeys keyStatus = some data) :
    sessionKeys.isValid = true ∧
      KeyWrapBuffer.paddedSize sessionKeys keyStatus + 8 ≤
        AuthSizes.MAX_SESSION_KEY_WRAP_BUFFER_SIZE ∧
      AESKeyWrap.wrapKey aes updateKey (KeyWrapBuffer.dataToWrap memory sessionKeys keyStatus)
        AuthSizes.MAX_SESSION_KEY_WRAP_BUFFER_SIZE = some data := by
  unfold KeyWrapBuffer.wrap at h
  split at h
  next hvalid =>
    split at h
    next wrapped hwrap =>
      split at h
      · cases h
      · cases h
        refine ⟨hvalid, ?_, hwrap⟩
        have hlength := length_dataToWrap memory sessionKeys keyStatus
        unfold AESKeyWrap.wrapKey at hwrap
        split at hwrap
        · cases hwrap
        · split at hwrap
          · cases hwrap
          · omega
    next => cases h
  next => cases h

/-- **Unwrapping gives back what was wrapped**: the keys, and the status with less than eight zeros
behind it. -/
theorem unwrap_wrap {aes : AES} (haes : aes.Inverts)
    {memory : Vector UInt8 AuthSizes.MAX_SESSION_KEY_WRAP_BUFFER_SIZE} {updateKey : List UInt8}
    {sessionKeys : SessionKeysView} {keyStatus data : List UInt8}
    (h : KeyWrapBuffer.wrap aes memory updateKey sessionKeys keyStatus = some data) :
    ∃ padding < 8, SessionKeyUnwrapBuffer.unwrap aes updateKey data =
      some (sessionKeys, keyStatus ++ List.replicate padding 0) := by
  obtain ⟨hvalid, hfits, hwrap⟩ := paddedSize_of_wrap h
  obtain ⟨padding, hsmall, hdata⟩ := dataToWrap_eq memory (Nat.le_of_add_right_le hfits)
  have hlength := length_dataToWrap memory sessionKeys keyStatus
  have hmax : AuthSizes.MAX_SESSION_KEY_WRAP_BUFFER_SIZE = 96 := rfl
  have hroom : (KeyWrapBuffer.dataToWrap memory sessionKeys keyStatus).length ≤
      AuthSizes.MAX_SESSION_KEY_WRAP_BUFFER_SIZE := by omega
  have hunwrap := AESKeyWrap.unwrapKey_wrapKey haes hwrap hroom (by omega)
  have hlimits := hvalid
  unfold SessionKeysView.isValid AuthSizes.sessionKeySizeWithinLimits at hlimits
  simp only [Bool.and_eq_true, beq_iff_eq, decide_eq_true_eq] at hlimits
  obtain ⟨⟨hsame, hcontrol⟩, hmonitor⟩ := hlimits
  have hmaxKey : AuthSizes.MAX_SESSION_KEY_SIZE_BYTES = 32 := rfl
  have hkeyLength : leNat (leBytes 2 sessionKeys.controlKey.length) =
      sessionKeys.controlKey.length := by
    rw [leNat_leBytes, Nat.mod_eq_of_lt (by omega)]
  refine ⟨padding, hsmall, ?_⟩
  unfold SessionKeyUnwrapBuffer.unwrap
  rw [hunwrap, hdata]
  dsimp only
  rw [if_neg (by rw [List.length_append, length_leBytes]; omega),
    List.take_left' (length_leBytes 2 _), List.drop_left' (length_leBytes 2 _), hkeyLength,
    if_neg (by simp [AuthSizes.sessionKeySizeWithinLimits, hcontrol]), if_neg (by simp; omega),
    List.take_left, List.drop_left, hsame, List.take_left, List.drop_left]

/-! ## The status of the keys -/

/-- Compare without giving away where the difference is: all bits that differ are collected. -/
def secureEquals (lhs rhs : List UInt8) : Bool :=
  if lhs.length ≠ rhs.length then false
  else (List.zipWith (· ^^^ ·) lhs rhs).foldl (· ||| ·) 0 == 0

theorem foldl_or_eq_zero (acc : UInt8) (l : List UInt8) :
    l.foldl (· ||| ·) acc = 0 ↔ acc = 0 ∧ ∀ x ∈ l, x = 0 := by
  induction l generalizing acc with
  | nil => simp
  | cons x l ih =>
    rw [List.foldl_cons, ih, UInt8.or_eq_zero_iff, List.forall_mem_cons, and_assoc]

@[simp] theorem secureEquals_iff (lhs rhs : List UInt8) :
    secureEquals lhs rhs = true ↔ lhs = rhs := by
  unfold secureEquals
  split
  next hne => exact iff_of_false Bool.false_ne_true fun heq => hne (congrArg List.length heq)
  next hlength =>
    rw [beq_iff_eq, foldl_or_eq_zero, and_iff_right rfl]
    have hlength' : lhs.length = rhs.length := not_not.mp hlength
    clear hlength
    induction lhs generalizing rhs with
    | nil => simp [List.length_eq_zero_iff.mp hlength'.symm]
    | cons x lhs ih =>
      cases rhs with
      | nil => cases hlength'
      | cons y rhs =>
        have htail := ih rhs (Nat.succ.inj hlength')
        rw [List.zipWith_cons_cons, List.forall_mem_cons, UInt8.xor_eq_zero_iff, List.cons.injEq]
        exact and_congr_right fun _ => htail

/-- A source of random bytes: what it leaves in a destination of some size, and whether it
succeeded. -/
abbrev SecureRandom (W : Type) : Type := W → (size : Nat) → W × Vector UInt8 size × Bool

/-- What an outstation keeps of the last status it has sent. -/
structure SessionKeyChangeState where
  lastUser : User
  challengeSize : Nat
  keyChangeSeqNum : UInt32
  statusRsp : Group120Var5
  challengeSize_le : challengeSize ≤ AuthSizes.MAX_CHALLENGE_DATA_SIZE
  challengeData_le : statusRsp.challengeData.length ≤ AuthSizes.MAX_CHALLENGE_DATA_SIZE

namespace SessionKeyChangeState

variable {W : Type}

/-- No status was sent. -/
def initial (challengeSize : Nat) : SessionKeyChangeState where
  lastUser := .unknown
  challengeSize := AuthSizes.getBoundedChallengeSize challengeSize
  keyChangeSeqNum := 0
  statusRsp := {
    keyChangeSeqNum := 0
    userNum := 0
    keyWrapAlgo := .undefined
    keyStatus := .undefined
    hmacAlgo := .unknown
    challengeData := []
    hmacValue := [] }
  challengeSize_le := AuthSizes.getBoundedChallengeSize_le challengeSize
  challengeData_le := Nat.zero_le _

/-- The status that is sent next. -/
def next (s : SessionKeyChangeState) (user : User) (hmacType : HMACType)
    (keyWrapAlgo : KeyWrapAlgorithm) (status : KeyStatus)
    (challenge : Vector UInt8 s.challengeSize) (hmac : List UInt8) : SessionKeyChangeState :=
  { s with
    keyChangeSeqNum := s.keyChangeSeqNum + 1
    lastUser := user
    statusRsp := {
      keyChangeSeqNum := s.keyChangeSeqNum + 1
      userNum := user.id
      keyWrapAlgo := keyWrapAlgo
      keyStatus := status
      hmacAlgo := hmacType
      challengeData := challenge.toList
      hmacValue := hmac }
    challengeData_le := by rw [Vector.length_toList]; exact s.challengeSize_le }

/-- The challenge of the last status is a view of the buffer that the random source fills. -/
def overwritten (s : SessionKeyChangeState) (challenge : Vector UInt8 s.challengeSize) :
    SessionKeyChangeState :=
  if s.statusRsp.challengeData.isEmpty then s
  else
    { s with
      statusRsp := { s.statusRsp with challengeData := challenge.toList }
      challengeData_le := by rw [Vector.length_toList]; exact s.challengeSize_le }

/-- Write a new status, which the next change of keys has to repeat. -/
def formatKeyStatusResponse (s : SessionKeyChangeState) (getSecureRandom : SecureRandom W)
    (world : W) (writer : HeaderWriter) (user : User) (hmacType : HMACType)
    (keyWrapAlgo : KeyWrapAlgorithm) (status : KeyStatus) (hmac : List UInt8) :
    SessionKeyChangeState × W × HeaderWriter × Bool :=
  let (world, challenge, ok) := getSecureRandom world s.challengeSize
  if ok then
    let s := s.next user hmacType keyWrapAlgo status challenge hmac
    let (writer, written) := writer.writeFreeFormat group120Var5 s.statusRsp
    (s, world, writer, written)
  else (s.overwritten challenge, world, writer, false)

/-- The longest status that is wrapped together with keys. -/
def MAX_KEY_STATUS_BUFFER_SIZE : Nat := 27

/-- The last status without its authentication code, in a buffer. -/
def lastStatus (s : SessionKeyChangeState) : Group120Var5 := { s.statusRsp with hmacValue := [] }

/-- What is behind the last status is padding. -/
def equalsLastStatusResponse (s : SessionKeyChangeState) (unwrappedKeyStatus : List UInt8) : Bool :=
  let (dest, ok) := group120Var5.write s.lastStatus
    (WSlice.ofMemory (List.replicate MAX_KEY_STATUS_BUFFER_SIZE 0))
  if ok then
    let sent := dest.mem.take (group120Var5.size s.lastStatus).toNat
    secureEquals sent (unwrappedKeyStatus.take sent.length)
  else false

/-- User and number are those of the last status. -/
def checkUserAndKSQMatches (s : SessionKeyChangeState) (user : User) (keyChangeSeq : UInt32) :
    Bool :=
  s.lastUser.id == user.id && s.keyChangeSeqNum == keyChangeSeq

/-- The status is compared with the front of what was unwrapped. -/
theorem equalsLastStatusResponse_iff (s : SessionKeyChangeState)
    (unwrappedKeyStatus : List UInt8) :
    s.equalsLastStatusResponse unwrappedKeyStatus = true ↔
      group120Var5.bytes s.lastStatus <+: unwrappedKeyStatus := by
  have hchallenge : s.lastStatus.challengeData.length ≤ 16 := s.challengeData_le
  have hbyteSize : group120Var5.byteSize s.lastStatus = 11 + s.lastStatus.challengeData.length := by
    change 9 + (1 * 2 + (s.lastStatus.challengeData.length + 0) + 0) = _
    omega
  have hfits : PrefixFields.lengthFitsInUInt16 (group120Var5.fields s.lastStatus) = true := by
    change (decide (s.lastStatus.challengeData.length ≤ 65535) && true) = true
    simp
    omega
  have hroom : (WSlice.ofMemory (List.replicate MAX_KEY_STATUS_BUFFER_SIZE 0)).size = 27 := rfl
  have hok : (group120Var5.write s.lastStatus
      (WSlice.ofMemory (List.replicate MAX_KEY_STATUS_BUFFER_SIZE 0))).2 = true :=
    VariableLength.write_of_fits (by omega) (by omega) hfits
  obtain ⟨-, hwritten⟩ := VariableLength.written_write (by omega) hok
  have hlength : (group120Var5.bytes s.lastStatus).length = group120Var5.byteSize s.lastStatus :=
    VariableLength.length_bytes s.lastStatus
  have hsize : (group120Var5.size s.lastStatus).toNat = group120Var5.byteSize s.lastStatus := by
    rw [VariableLength.toNat_size, Nat.mod_eq_of_lt (by omega)]
  unfold equalsLastStatusResponse
  generalize group120Var5.write s.lastStatus
    (WSlice.ofMemory (List.replicate MAX_KEY_STATUS_BUFFER_SIZE 0)) = result at hok hwritten ⊢
  obtain ⟨dest, ok⟩ := result
  dsimp only at hok hwritten ⊢
  rw [if_pos hok]
  have hsent : dest.mem.take (group120Var5.size s.lastStatus).toNat =
      group120Var5.bytes s.lastStatus := by
    have hpos : dest.pos = group120Var5.byteSize s.lastStatus := by
      rw [← dest.length_written, hwritten, List.length_append, hlength]
      exact Nat.zero_add _
    rw [hsize, ← hpos]
    exact hwritten
  rw [hsent, List.prefix_iff_eq_take, secureEquals_iff]

/-- What the master puts behind the keys is the status as it was sent, with its authentication
code. -/
theorem lastStatus_prefix (s : SessionKeyChangeState) (rest : List UInt8) :
    group120Var5.bytes s.lastStatus <+: group120Var5.bytes s.statusRsp ++ rest := by
  refine ⟨s.statusRsp.hmacValue ++ rest, ?_⟩
  change (group120Var5.fixed.write (group120Var5.values s.statusRsp) ++
      (PrefixFields.bytes [s.statusRsp.challengeData] ++ [])) ++ (s.statusRsp.hmacValue ++ rest) =
    (group120Var5.fixed.write (group120Var5.values s.statusRsp) ++
      (PrefixFields.bytes [s.statusRsp.challengeData] ++ s.statusRsp.hmacValue)) ++ rest
  simp only [List.append_nil, List.append_assoc]

end SessionKeyChangeState

/-- What a status says of the state that has formatted it. -/
theorem statusRsp_of_format {W : Type} {getSecureRandom : SecureRandom W} {world : W}
    {writer : HeaderWriter} {s s' : SessionKeyChangeState} {user : User} {hmacType : HMACType}
    {keyWrapAlgo : KeyWrapAlgorithm} {status : KeyStatus} {hmac : List UInt8} {world' : W}
    {writer' : HeaderWriter}
    (h : s.formatKeyStatusResponse getSecureRandom world writer user hmacType keyWrapAlgo status
      hmac = (s', world', writer', true)) :
    s'.lastUser = user ∧ s'.keyChangeSeqNum = s'.statusRsp.keyChangeSeqNum ∧
      s'.statusRsp.hmacValue = hmac ∧
      writer.writeFreeFormat group120Var5 s'.statusRsp = (writer', true) := by
  unfold SessionKeyChangeState.formatKeyStatusResponse at h
  rcases getSecureRandom world s.challengeSize with ⟨world₁, challenge, ok⟩
  dsimp only at h
  split at h
  · simp only [Prod.mk.injEq] at h
    obtain ⟨rfl, -, hwriter, hwritten⟩ := h
    exact ⟨rfl, rfl, rfl, Prod.ext hwriter hwritten⟩
  · cases h

/-- Two keys of sixteen bytes behind their length, and the status of keys that are not set yet. -/
def exampleInput : List UInt8 :=
  [0x10, 0x00] ++ List.replicate 16 0x01 ++ List.replicate 16 0x02 ++
    [0x01, 0x00, 0x00, 0x00, 0x01, 0x00, 0x01, 0x02, 0x00, 0x04, 0x00, 0xDE, 0xAD, 0xBE, 0xEF] ++
    List.replicate 7 0x00

/-- Keys and status of the example, wrapped. -/
def exampleOutput : List UInt8 :=
  [0xED, 0x74, 0xB0, 0x9A, 0xB1, 0x57, 0x2A, 0xA1, 0xBA, 0x09, 0x27, 0x8C, 0x8C, 0x0C, 0x04, 0xF5,
    0x87, 0x66, 0xAD, 0xEB, 0xEC, 0x00, 0xD8, 0x86, 0x95, 0xCE, 0x3D, 0x12, 0xC0, 0xE4, 0xC3, 0xCD,
    0x2C, 0x45, 0xB3, 0xF9, 0xB1, 0xED, 0xF3, 0xD1, 0x7A, 0x51, 0xA2, 0xED, 0xEA, 0x7D, 0xCC, 0x3C,
    0x61, 0x00, 0x7A, 0xF2, 0x28, 0x56, 0xFE, 0xA3, 0xBF, 0xDA, 0x00, 0x93, 0x01, 0x12, 0x35, 0x45]

/-- A block cipher that is known for one update key and the data of one change. -/
def exampleAES : AES where
  wrapKey kek input := if kek = List.replicate 16 0xFF ∧ input = exampleInput then
    some exampleOutput else none
  unwrapKey kek input := if kek = List.replicate 16 0xFF ∧ input = exampleOutput then
    some exampleInput else none

theorem exampleAES_inverts : exampleAES.Inverts := by
  have hwrap : ∀ {kek input output}, exampleAES.wrapKey kek input = some output →
      (kek = List.replicate 16 0xFF ∧ input = exampleInput) ∧ output = exampleOutput := by
    intro kek input output h
    change (if _ then _ else _) = _ at h
    split at h
    next hknown => exact ⟨hknown, (Option.some.inj h).symm⟩
    next => cases h
  refine ⟨fun h => ?_, fun h => ?_⟩
  · obtain ⟨⟨-, rfl⟩, rfl⟩ := hwrap h
    rfl
  · obtain ⟨⟨rfl, rfl⟩, rfl⟩ := hwrap h
    simp [exampleAES]

/-- A source that always has the same four bytes. -/
def exampleRandom : SecureRandom Unit := fun _ size =>
  ((), Vector.ofFn fun i : Fin size => [0xDE, 0xAD, 0xBE, 0xEF].getD i.val 0, true)

/-- The state of an outstation that has sent its first status. -/
def exampleState : SessionKeyChangeState × Unit × HeaderWriter × Bool :=
  (SessionKeyChangeState.initial 4).formatKeyStatusResponse exampleRandom ()
    (.ofSlice (.ofMemory (List.replicate 64 0))) .default .noMacValue .aes128 .notInit []

example : KeyWrapBuffer.wrap exampleAES (.replicate 96 0) (List.replicate 16 0xFF)
    ⟨List.replicate 16 0x01, List.replicate 16 0x02⟩
    (group120Var5.bytes exampleState.1.statusRsp) = some exampleOutput := by
  decide +kernel

end Secauth
end Dnp3
