import Dnp3.Transport.Segmentation
import Dnp3.Link.Format

/-!
# APDUs sent one behind the other

The transmitter is configured anew for each APDU and keeps its sequence number.  A receiver that is
given the segments of some APDUs returns these APDUs, in order, and otherwise nothing.

`conversation` is what a transmitter makes of several APDUs, and `fragments` what a receiver makes
of the segments that it gets.  Every segment has a size that fits into a frame of the link layer
(`conversation_sized`), and a receiver of which only the size of its buffer is known puts together
exactly these APDUs, in order (`fragments_conversation`).  `userData` are the segments as user data
of the link layer, so that `Transport.TransportStack` can put the layers on top of each other.
-/

namespace Dnp3
namespace Transport

open Link (UserData LPDU_MAX_USER_DATA_SIZE)

namespace TransportTx

theorem numToSend_le_max (tx : TransportTx) : tx.numToSend ≤ MAX_TPDU_PAYLOAD := by
  unfold numToSend
  split <;> omega

/-- Every segment fits into a frame of the link layer, and is not empty. -/
theorem segments_sized (n : Nat) (tx : TransportTx) (hlen : tx.apdu.length = n)
    (hseg : tx.txSegment = none) : ∀ tpdu ∈ tx.segments.1,
      0 < tpdu.length ∧ tpdu.length ≤ LPDU_MAX_USER_DATA_SIZE := by
  induction n using Nat.strong_induction_on generalizing tx with
  | _ n ih =>
    obtain ⟨hsegment, hadvance⟩ := getSegment_none hseg
    have hmax : tx.numToSend ≤ 249 := tx.numToSend_le_max
    have hthis : ∀ hdr : UInt8, 0 < (hdr :: tx.apdu.take tx.numToSend).length ∧
        (hdr :: tx.apdu.take tx.numToSend).length ≤ LPDU_MAX_USER_DATA_SIZE := by
      intro hdr
      change 0 < (tx.apdu.take tx.numToSend).length + 1 ∧
        (tx.apdu.take tx.numToSend).length + 1 ≤ 250
      rw [List.length_take]
      omega
    rw [segments, hsegment, hadvance]
    by_cases hmore : tx.numToSend < tx.apdu.length
    · rw [dif_pos (by simpa using hmore)]
      have hpos : 0 < tx.numToSend :=
        numToSend_pos (List.ne_nil_of_length_pos (by omega))
      have hrest : (tx.apdu.drop tx.numToSend).length = tx.apdu.length - tx.numToSend :=
        List.length_drop
      intro tpdu htpdu
      rcases List.mem_cons.mp htpdu with rfl | hlater
      · exact hthis _
      · exact ih (tx.apdu.drop tx.numToSend).length (by omega) _ rfl rfl tpdu hlater
    · rw [dif_neg (by simpa using hmore)]
      intro tpdu htpdu
      rw [List.mem_singleton.mp htpdu]
      exact hthis _

/-- A segment as user data of the link layer. -/
def toUserData (tpdu : List UInt8) : Option UserData :=
  if h : 0 < tpdu.length ∧ tpdu.length ≤ LPDU_MAX_USER_DATA_SIZE then some ⟨tpdu, h.1, h.2⟩
  else none

/-- What the link layer is handed of a transmitter. -/
def userData (tpdus : List (List UInt8)) : List UserData := tpdus.filterMap toUserData

/-- Nothing of the segments is lost in the link layer's user data. -/
theorem bytes_userData {tpdus : List (List UInt8)}
    (h : ∀ tpdu ∈ tpdus, 0 < tpdu.length ∧ tpdu.length ≤ LPDU_MAX_USER_DATA_SIZE) :
    (userData tpdus).map UserData.bytes = tpdus := by
  induction tpdus with
  | nil => rfl
  | cons tpdu tpdus ih =>
    have hthis : toUserData tpdu = some ⟨tpdu, (h tpdu (by simp)).1, (h tpdu (by simp)).2⟩ :=
      dif_pos (h tpdu (by simp))
    rw [userData, List.filterMap_cons_some hthis, List.map_cons]
    exact congrArg _ (ih fun later hlater => h later (List.mem_cons_of_mem _ hlater))

/-- The segments of some APDUs that are sent one behind the other. -/
def conversation (tx : TransportTx) : List (List UInt8) → List (List UInt8)
  | [] => []
  | apdu :: apdus =>
    (tx.configure apdu).segments.1 ++ conversation (tx.configure apdu).segments.2 apdus

theorem conversation_sized (tx : TransportTx) (apdus : List (List UInt8)) :
    ∀ tpdu ∈ tx.conversation apdus, 0 < tpdu.length ∧ tpdu.length ≤ LPDU_MAX_USER_DATA_SIZE := by
  induction apdus generalizing tx with
  | nil => exact fun tpdu htpdu => absurd htpdu List.not_mem_nil
  | cons apdu apdus ih =>
    intro tpdu htpdu
    rcases List.mem_append.mp htpdu with hfirst | hlater
    · exact segments_sized _ (tx.configure apdu) rfl rfl tpdu hfirst
    · exact ih _ tpdu hlater

end TransportTx

namespace TransportRx

/-- What a receiver returns that is not empty. -/
def fragments (rx : TransportRx) (tpdus : List (List UInt8)) : List (List UInt8) :=
  (rx.receive tpdus).1.filter fun apdu => !apdu.isEmpty

theorem receive_append (rx : TransportRx) (front back : List (List UInt8)) :
    rx.receive (front ++ back) =
      ((rx.receive front).1 ++ ((rx.receive front).2.receive back).1,
        ((rx.receive front).2.receive back).2) := by
  induction front generalizing rx with
  | nil => rfl
  | cons tpdu front ih => simp only [List.cons_append, receive, ih]

/-- A receiver with a buffer of this size, which has read no more than the buffer holds. -/
structure Sized (size : Nat) (rx : TransportRx) : Prop where
  read : rx.numBytesRead ≤ rx.rxBuffer.length
  length : rx.rxBuffer.length = size

theorem Sized.store {size : Nat} {rx start : TransportRx} (h : rx.Sized size) {hdr : UInt8}
    {bytes : List UInt8} (hstart : Start rx hdr start) (hfit : bytes.length ≤ start.available) :
    (start.store bytes).Sized size := by
  have hlen := length_store (hstart.numBytesRead_le h.read) hfit
  refine ⟨?_, by rw [hlen, hstart.rxBuffer_eq, h.length]⟩
  have hle := hstart.numBytesRead_le h.read
  rw [hlen, store_numBytesRead]
  unfold available at hfit
  omega

theorem Sized.processReceive {size : Nat} {rx : TransportRx} (h : rx.Sized size)
    (tpdu : List UInt8) : (rx.processReceive tpdu).2.Sized size := by
  have hreceived := rx.processReceive_received tpdu
  generalize (rx.processReceive tpdu).1 = apdu, (rx.processReceive tpdu).2 = rx' at hreceived
  cases hreceived with
  | rejected _ hbuf hkeep =>
    refine ⟨?_, by rw [hbuf, h.length]⟩
    rw [hbuf]
    rcases hkeep with hzero | ⟨hsame, -⟩
    · rw [hzero]
      exact Nat.zero_le _
    · rw [hsame]
      exact h.read
  | stored _ hstart hfit => exact h.store hstart hfit
  | completed _ hstart hfit => exact ⟨Nat.zero_le _, (h.store hstart hfit).length⟩

theorem Sized.receive {size : Nat} {rx : TransportRx} (h : rx.Sized size)
    (tpdus : List (List UInt8)) : (rx.receive tpdus).2.Sized size := by
  induction tpdus generalizing rx with
  | nil => exact h
  | cons tpdu tpdus ih => exact ih (h.processReceive tpdu)

/-- **The APDUs that were sent are the fragments that are received.** -/
theorem fragments_conversation {size : Nat} {rx : TransportRx} (hsized : rx.Sized size)
    {tx : TransportTx} (hseq : tx.sequence < 64) {apdus : List (List UInt8)}
    (hfit : ∀ apdu ∈ apdus, apdu ≠ [] ∧ apdu.length ≤ size) :
    rx.fragments (tx.conversation apdus) = apdus := by
  induction apdus generalizing rx tx with
  | nil => rfl
  | cons apdu apdus ih =>
    obtain ⟨hne, hle⟩ := hfit apdu List.mem_cons_self
    obtain ⟨hres, -, hlast⟩ := tx.receive_configure rx hne (hle.trans_eq hsized.length.symm) hseq
    have hseq' : (tx.configure apdu).segments.2.sequence < 64 := by
      rw [UInt8.lt_iff_toNat_lt, hlast]
      exact Nat.mod_lt _ (by decide)
    have hrest := ih (hsized.receive (tx.configure apdu).segments.1) hseq' fun later hlater =>
      hfit later (List.mem_cons_of_mem _ hlater)
    have hapdu : (!apdu.isEmpty) = true := by
      rw [Bool.not_eq_true', List.isEmpty_eq_false_iff]
      exact hne
    unfold fragments at hrest ⊢
    rw [TransportTx.conversation, receive_append, List.filter_append, hrest, hres,
      List.filter_append, List.filter_replicate]
    simp [hapdu]

end TransportRx
end Transport
end Dnp3
