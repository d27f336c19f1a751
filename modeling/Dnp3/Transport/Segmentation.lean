import Dnp3.Transport.Reassembly

/-!
# Segments of an APDU arrive as the APDU

The transmitter's segments of an APDU, given to a receiver in any state one after the other, make it
return the APDU with the last one.  The induction is on what is left of the APDU: before each
segment but the first the receiver holds what was sent and expects the transmitter's sequence
number.

The receiver need not be new.  It may hold segments of an APDU that was never completed, expect
another sequence number, and have any bytes in its buffer: the first segment makes it start again,
and each of the others is the one it expects.  `receive_segments` is the induction over what is left
of the APDU, and `segments_round_trip` states the result for every sequence number and every APDU
that fits.
-/

namespace Dnp3
namespace Transport

open Library

namespace TransportTx

theorem numToSend_pos {tx : TransportTx} (h : tx.apdu ≠ []) : 0 < tx.numToSend := by
  unfold numToSend MAX_TPDU_PAYLOAD
  have := List.length_pos_iff.mpr h
  split <;> omega

theorem numToSend_le (tx : TransportTx) : tx.numToSend ≤ tx.apdu.length := by
  unfold numToSend MAX_TPDU_PAYLOAD
  split <;> omega

/-- There is a next segment exactly if not everything was sent. -/
theorem advance_more (tx : TransportTx) :
    tx.advance.1 = true ↔ tx.numToSend < tx.apdu.length := by
  simp only [advance, Bool.not_eq_true', List.isEmpty_eq_false_iff, ne_eq, List.drop_eq_nil_iff]
  omega

/-- `GetSegment` and `Advance` until `Advance` is false: the segments, and the transmitter after
them. -/
def segments (tx : TransportTx) : List (List UInt8) × TransportTx :=
  let segment := tx.getSegment.1
  let next := tx.getSegment.2.advance
  if _hmore : next.1 = true then
    let more := segments next.2
    (segment :: more.1, more.2)
  else ([segment], next.2)
termination_by tx.apdu.length
decreasing_by
  have hseg : tx.getSegment.2.apdu = tx.apdu := by
    unfold getSegment
    split <;> rfl
  have hlt := (advance_more _).mp _hmore
  have hpos : 0 < tx.getSegment.2.numToSend :=
    numToSend_pos (List.ne_nil_of_length_pos (Nat.lt_of_le_of_lt (Nat.zero_le _) hlt))
  simp only [advance, List.length_drop, hseg] at *
  omega

/-- The segment of a transmitter that was not asked for it yet, and the transmitter after it. -/
theorem getSegment_none {tx : TransportTx} (h : tx.txSegment = none) :
    tx.getSegment.1 = getHeader (tx.tpduCount == 0) (tx.numToSend == tx.apdu.length) tx.sequence ::
        tx.apdu.take tx.numToSend ∧
      tx.getSegment.2.advance = (decide (tx.numToSend < tx.apdu.length), { tx.countTx with
        txSegment := none
        apdu := tx.apdu.drop tx.numToSend
        tpduCount := tx.tpduCount + 1
        sequence := nextSeq tx.sequence }) := by
  have hmore := fun tx : TransportTx => Bool.eq_iff_iff.mpr
    ((advance_more tx).trans (decide_eq_true_iff (p := tx.numToSend < tx.apdu.length)).symm)
  simp only [getSegment, h, true_and]
  exact Prod.ext (hmore _) rfl

end TransportTx

/-! ## The header octet -/

/-- Reading the header octet gives back what it was made of. -/
theorem getHeader_fields (fir fin : Bool) {seq : UInt8} (h : seq < 64) :
    isFirst (TransportTx.getHeader fir fin seq) = fir ∧
      isLast (TransportTx.getHeader fir fin seq) = fin ∧
      seqOf (TransportTx.getHeader fir fin seq) = seq := by
  have hall : ∀ n : Fin 64, ∀ fir fin : Bool,
      isFirst (TransportTx.getHeader fir fin (UInt8.ofNat n)) = fir ∧
        isLast (TransportTx.getHeader fir fin (UInt8.ofNat n)) = fin ∧
        seqOf (TransportTx.getHeader fir fin (UInt8.ofNat n)) = UInt8.ofNat n := by
    decide +kernel
  have hlt : seq.toNat < 64 := h
  have := hall ⟨seq.toNat, hlt⟩ fir fin
  rwa [UInt8.ofNat_toNat] at this

theorem nextSeq_toNat (seq : UInt8) : (nextSeq seq).toNat = (seq.toNat + 1) % 64 := by
  rw [nextSeq, UInt8.toNat_mod, UInt8.toNat_add]
  show (seq.toNat + 1) % 256 % 64 = (seq.toNat + 1) % 64
  omega

theorem nextSeq_lt (seq : UInt8) : nextSeq seq < 64 := by
  show (nextSeq seq).toNat < 64
  rw [nextSeq_toNat]
  omega

/-! ## Feeding the segments to a receiver -/

namespace TransportRx

/-- The results of a receiver for some segments, and the receiver after them. -/
def receive (rx : TransportRx) : List (List UInt8) → List (List UInt8) × TransportRx
  | [] => ([], rx)
  | tpdu :: tpdus =>
    let out := rx.processReceive tpdu
    let rest := receive out.2 tpdus
    (out.1 :: rest.1, rest.2)

/-- The receiver holds some bytes and expects a sequence number. -/
structure Holds (rx : TransportRx) (bytes : List UInt8) (seq : UInt8) : Prop where
  received : rx.received = bytes
  numBytesRead : rx.numBytesRead = bytes.length
  sequence : rx.sequence = seq

/-- A receiver that is ready for a segment stores it. -/
theorem processReceive_start {rx start : TransportRx} {hdr : UInt8} {bytes : List UInt8}
    (hstart : Start rx hdr start) (hfit : bytes.length ≤ start.available) :
    rx.processReceive (hdr :: bytes) =
      if isLast hdr then ((start.store bytes).received, (start.store bytes).clearRxBuffer)
      else ([], start.store bytes) := by
  have hv : rx.validateHeader (isFirst hdr) (seqOf hdr) = (start, true) := by
    cases hstart with
    | fir hfir => rw [validateHeader, if_pos hfir]
    | next hfir hpos hseq =>
      have h0 : (rx.numBytesRead == 0) = false := by
        rw [beq_eq_false_iff_ne]
        omega
      simp [validateHeader, hfir, h0, hseq]
  simp only [processReceive, hv, if_neg (not_lt.mpr hfit)]

/-- A segment of the transmitter is stored behind what the receiver holds; the last one makes it
return everything. -/
theorem processReceive_segment {rx start : TransportRx} {fir fin : Bool} {seq : UInt8}
    {held : List UInt8} (bytes : List UInt8) (hseq : seq < 64)
    (hstart : Start rx (TransportTx.getHeader fir fin seq) start) (hheld : start.Holds held seq)
    (hfit : held.length + bytes.length ≤ start.rxBuffer.length) :
    ∃ rx', rx.processReceive (TransportTx.getHeader fir fin seq :: bytes) =
        (if fin then (held ++ bytes, rx'.clearRxBuffer) else ([], rx')) ∧
      rx'.Holds (held ++ bytes) (nextSeq seq) ∧ rx'.rxBuffer.length = start.rxBuffer.length := by
  have hle : start.numBytesRead ≤ start.rxBuffer.length := by
    rw [hheld.numBytesRead]
    omega
  have havail : bytes.length ≤ start.available := by
    rw [available, hheld.numBytesRead]
    omega
  have hrecv : (start.store bytes).received = held ++ bytes := by
    rw [received_store bytes hle, hheld.received]
  refine ⟨start.store bytes, ?_, ⟨hrecv, ?_, ?_⟩, length_store hle havail⟩
  · rw [processReceive_start hstart havail, hrecv, (getHeader_fields fir fin hseq).2.1]
  · rw [store_numBytesRead, hheld.numBytesRead, List.length_append]
  · rw [store_sequence, hheld.sequence]

end TransportRx

namespace TransportTx

open TransportRx

/-- The segments of the rest of an APDU, given to a receiver that is ready for the next one. -/
theorem receive_segments (n : Nat) (tx : TransportTx) (rx start : TransportRx) (held : List UInt8)
    (hlen : tx.apdu.length = n) (hseg : tx.txSegment = none) (hne : tx.apdu ≠ [])
    (hseq : tx.sequence < 64)
    (hstart : ∀ fin, Start rx (getHeader (tx.tpduCount == 0) fin tx.sequence) start)
    (hheld : start.Holds held tx.sequence)
    (hfit : held.length + tx.apdu.length ≤ start.rxBuffer.length) :
    (rx.receive tx.segments.1).1 =
        List.replicate (tx.segments.1.length - 1) [] ++ [held ++ tx.apdu] ∧
      (rx.receive tx.segments.1).2.numBytesRead = 0 ∧
      tx.segments.2.sequence.toNat = (tx.sequence.toNat + tx.segments.1.length) % 64 ∧
      tx.segments.1 ≠ [] := by
  induction n using Nat.strong_induction_on generalizing tx rx start held with
  | _ n ih =>
    obtain ⟨hsegment, hadvance⟩ := getSegment_none hseg
    have hpos := numToSend_pos hne
    have hle := tx.numToSend_le
    have htake : (tx.apdu.take tx.numToSend).length = tx.numToSend := List.length_take_of_le hle
    obtain ⟨rx', hout, hheld', hbuf⟩ := processReceive_segment (tx.apdu.take tx.numToSend)
      hseq (hstart (tx.numToSend == tx.apdu.length)) hheld (by omega)
    rw [segments, hsegment, hadvance]
    by_cases hmore : tx.numToSend < tx.apdu.length
    · -- there is a next segment: the receiver holds this one's payload
      have hfin : (tx.numToSend == tx.apdu.length) = false := by
        rw [beq_eq_false_iff_ne]
        omega
      rw [hfin] at hout ⊢
      rw [dif_pos (by simpa using hmore)]
      generalize hnext : ({ tx.countTx with
        txSegment := none
        apdu := tx.apdu.drop tx.numToSend
        tpduCount := tx.tpduCount + 1
        sequence := nextSeq tx.sequence } : TransportTx) = next
      have happ : next.apdu = tx.apdu.drop tx.numToSend := by rw [← hnext]
      have hcount : next.tpduCount = tx.tpduCount + 1 := by rw [← hnext]
      have hnseq : next.sequence = nextSeq tx.sequence := by rw [← hnext]
      have hlen' : next.apdu.length = tx.apdu.length - tx.numToSend := by
        rw [happ, List.length_drop]
      have hready : ∀ fin, Start rx' (getHeader (next.tpduCount == 0) fin next.sequence) rx' := by
        intro fin
        have hfir : (next.tpduCount == 0) = false := by
          rw [beq_eq_false_iff_ne]
          omega
        have hfields := getHeader_fields false fin (nextSeq_lt tx.sequence)
        rw [hfir, hnseq]
        refine .next hfields.1 ?_ (hfields.2.2.trans hheld'.sequence.symm)
        rw [hheld'.numBytesRead, List.length_append]
        omega
      obtain ⟨hres, hzero, hlast, hnil⟩ := ih next.apdu.length (by omega) next rx' rx'
        (held ++ tx.apdu.take tx.numToSend) rfl (by rw [← hnext])
        (List.ne_nil_of_length_pos (by omega)) (by rw [hnseq]; exact nextSeq_lt _) hready
        (by rw [hnseq]; exact hheld') (by rw [hbuf, List.length_append]; omega)
      have hpos' : 0 < next.segments.1.length := List.length_pos_iff.mpr hnil
      simp only [receive, hout, Bool.false_eq_true, if_false]
      refine ⟨?_, hzero, ?_, List.cons_ne_nil _ _⟩
      · rw [hres, happ, List.append_assoc, List.take_append_drop, List.length_cons,
          Nat.add_sub_cancel]
        conv_rhs => rw [show next.segments.1.length = next.segments.1.length - 1 + 1 by omega]
        rfl
      · rw [hlast, hnseq, nextSeq_toNat, List.length_cons]
        omega
    · -- this is the last segment: everything is returned
      have hall : tx.numToSend = tx.apdu.length := by omega
      rw [dif_neg (by simpa using hmore)]
      rw [hall, List.take_length, beq_self_eq_true] at hout
      simp only [receive, hall, List.take_length, beq_self_eq_true, hout, if_true]
      exact ⟨rfl, rfl, nextSeq_toNat _, List.cons_ne_nil _ _⟩

/-- The segments of an APDU, given to any receiver whose buffer it fits into. -/
theorem receive_configure (tx : TransportTx) (rx : TransportRx) {apdu : List UInt8}
    (hne : apdu ≠ []) (hfit : apdu.length ≤ rx.rxBuffer.length) (hseq : tx.sequence < 64) :
    (rx.receive (tx.configure apdu).segments.1).1 =
        List.replicate ((tx.configure apdu).segments.1.length - 1) [] ++ [apdu] ∧
      (rx.receive (tx.configure apdu).segments.1).2.numBytesRead = 0 ∧
      (tx.configure apdu).segments.2.sequence.toNat =
        (tx.sequence.toNat + (tx.configure apdu).segments.1.length) % 64 := by
  have hfir : ∀ fin, isFirst (getHeader true fin tx.sequence) = true := fun fin =>
    (getHeader_fields true fin hseq).1
  have hseqOf : ∀ fin, seqOf (getHeader true fin tx.sequence) = tx.sequence := fun fin =>
    (getHeader_fields true fin hseq).2.2
  -- the first segment is accepted in every state of the receiver
  have hstart : ∀ fin, Start rx (getHeader true fin tx.sequence)
      { rx with sequence := tx.sequence, numBytesRead := 0 } := fun fin => by
    have h : Start rx _ _ := .fir (hfir fin)
    rwa [hseqOf fin] at h
  obtain ⟨hres, hzero, hlast, -⟩ := receive_segments apdu.length (tx.configure apdu) rx
    { rx with sequence := tx.sequence, numBytesRead := 0 } [] rfl rfl hne hseq hstart
    ⟨rfl, rfl, rfl⟩ (by simpa [configure] using hfit)
  exact ⟨hres, hzero, hlast⟩

/-- The segments of an APDU that fits into the receiver's buffer make any receiver return nothing
before the last one and the APDU with the last one; the receiver is empty afterwards, and the
transmitter's sequence number goes on. -/
theorem segments_round_trip (tx : TransportTx) (rx : TransportRx) (apdu : List UInt8)
    (hne : apdu ≠ []) (hfit : apdu.length ≤ rx.rxBuffer.length) (hseq : tx.sequence < 64) :
    let sent := (tx.configure apdu).segments
    (rx.receive sent.1).1 = List.replicate (sent.1.length - 1) [] ++ [apdu] ∧
      (rx.receive sent.1).2.numBytesRead = 0 ∧
      sent.2.sequence.toNat = (tx.sequence.toNat + sent.1.length) % 64 :=
  receive_configure tx rx hne hfit hseq

/-- Three segments, given to a receiver in the middle of another APDU; their sequence numbers are
63, 0 and 1. -/
theorem segments_round_trip_example :
    let apdu := (List.range 600).map fun i => UInt8.ofNat i
    let tx := { TransportTx.initial none with sequence := 63 }
    let rx := { TransportRx.initial (.replicate 2048 9) none with numBytesRead := 2 }
    let sent := (tx.configure apdu).segments
    ((rx.receive sent.1).1 = List.replicate (sent.1.length - 1) [] ++ [apdu] ∧
      (rx.receive sent.1).2.numBytesRead = 0 ∧
      sent.2.sequence.toNat = (tx.sequence.toNat + sent.1.length) % 64) ∧
    sent.1.map List.length = [250, 250, 103] ∧ sent.2.sequence = 2 := by
  intro apdu tx rx sent
  have hlength : apdu.length = 600 := by rw [List.length_map, List.length_range]
  have hne : apdu ≠ [] := List.ne_nil_of_length_pos (by omega)
  have hfit : apdu.length ≤ rx.rxBuffer.length := by
    show apdu.length ≤ (List.replicate 2048 (9 : UInt8)).length
    rw [hlength, List.length_replicate]
    decide
  refine ⟨segments_round_trip tx rx apdu hne hfit (by decide), ?_, ?_⟩
  · decide +kernel
  · decide +kernel

end TransportTx
end Transport
end Dnp3
