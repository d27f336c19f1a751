import Dnp3.Transport.TransportChannels
import Mathlib.Data.List.Chain
import Mathlib.Data.List.Induction
import Mathlib.Order.Basic

/-!
# What the receiver puts together

The receiver keeps bytes of segments it accepted earlier, through whatever it rejects in between.
The bytes it holds are the payloads of the segments accepted since the last one with the FIR bit,
and these have consecutive sequence numbers.

`Received` has one case for each way through `ProcessReceive`, and `trace` remembers for each
segment whether it was accepted.  A `Fragment` of a trace is a first segment with accepted segments
behind it that are not first, with numbers that follow each other; refused segments may stand in
between.  `Collected` is the invariant: what the receiver has in its buffer is the payload of such a
fragment.  So whatever segments a receiver is given, what it returns is the payload of one
(`processReceive_assembled`).
-/

namespace Dnp3
namespace Transport

open Library

/-- The header octet of a segment, and what follows it. -/
def header (tpdu : List UInt8) : UInt8 := tpdu.headD 0

/-- A segment without its header. -/
def payload (tpdu : List UInt8) : List UInt8 := tpdu.tail

namespace TransportRx

/-- The segment passes all validation. -/
def accepts (rx : TransportRx) : List UInt8 → Bool
  | [] => false
  | hdr :: payload =>
    let (rx', valid) := rx.validateHeader (isFirst hdr) (seqOf hdr)
    valid && decide (payload.length ≤ rx'.available)

/-- The receiver as it stores an accepted segment: emptied by a FIR segment, as it was before for
one that continues. -/
inductive Start (rx : TransportRx) (hdr : UInt8) : TransportRx → Prop where
  | fir (hfir : isFirst hdr = true) :
      Start rx hdr { rx with sequence := seqOf hdr, numBytesRead := 0 }
  | next (hfir : isFirst hdr = false) (hpos : 0 < rx.numBytesRead)
      (hseq : seqOf hdr = rx.sequence) : Start rx hdr rx

/-- What a segment does to the receiver. -/
inductive Received (rx : TransportRx) : List UInt8 → List UInt8 → TransportRx → Prop where
  | rejected {tpdu : List UInt8} {rx' : TransportRx} (ha : rx.accepts tpdu = false)
      (hbuf : rx'.rxBuffer = rx.rxBuffer)
      (hkeep : rx'.numBytesRead = 0 ∨
        (rx'.numBytesRead = rx.numBytesRead ∧ rx'.sequence = rx.sequence)) :
      Received rx tpdu [] rx'
  | stored {hdr : UInt8} {bytes : List UInt8} {start : TransportRx}
      (ha : rx.accepts (hdr :: bytes) = true) (hstart : Start rx hdr start)
      (hfit : bytes.length ≤ start.available) (hlast : isLast hdr = false) :
      Received rx (hdr :: bytes) [] (start.store bytes)
  | completed {hdr : UInt8} {bytes : List UInt8} {start : TransportRx}
      (ha : rx.accepts (hdr :: bytes) = true) (hstart : Start rx hdr start)
      (hfit : bytes.length ≤ start.available) (hlast : isLast hdr = true) :
      Received rx (hdr :: bytes) (start.store bytes).received (start.store bytes).clearRxBuffer

/-- A header is valid exactly for a receiver that can start with the segment. -/
theorem validateHeader_cases (rx : TransportRx) (hdr : UInt8) :
    (∃ start, rx.validateHeader (isFirst hdr) (seqOf hdr) = (start, true) ∧ Start rx hdr start) ∨
      rx.validateHeader (isFirst hdr) (seqOf hdr) = (rx, false) := by
  unfold validateHeader
  split
  · rename_i hfir
    exact .inl ⟨_, rfl, .fir hfir⟩
  · rename_i hfir
    have hfir' : isFirst hdr = false := by simpa using hfir
    split
    · exact .inr rfl
    · rename_i hpos
      by_cases hseq : seqOf hdr = rx.sequence
      · refine .inl ⟨rx, by simp [hseq], .next hfir' ?_ hseq⟩
        have : rx.numBytesRead ≠ 0 := by simpa using hpos
        omega
      · exact .inr (by simp [hseq])

theorem processReceive_received (rx : TransportRx) (tpdu : List UInt8) :
    Received rx tpdu (rx.processReceive tpdu).1 (rx.processReceive tpdu).2 := by
  cases tpdu with
  | nil => exact .rejected rfl rfl (.inr ⟨rfl, rfl⟩)
  | cons hdr bytes =>
    have hacc : rx.accepts (hdr :: bytes) =
        ((rx.validateHeader (isFirst hdr) (seqOf hdr)).2 && decide
          (bytes.length ≤ (rx.validateHeader (isFirst hdr) (seqOf hdr)).1.available)) := rfl
    rcases rx.validateHeader_cases hdr with ⟨start, hv, hstart⟩ | hv
    · rw [hv] at hacc
      simp only [processReceive, hv]
      by_cases hfit : bytes.length ≤ start.available
      · rw [if_neg (not_lt.mpr hfit)]
        have ha : rx.accepts (hdr :: bytes) = true := by simp [hacc, hfit]
        by_cases hlast : isLast hdr = true
        · rw [if_pos hlast]
          exact .completed ha hstart hfit hlast
        · rw [if_neg hlast]
          exact .stored ha hstart hfit (by simpa using hlast)
      · rw [if_pos (not_le.mp hfit)]
        have hbuf : start.rxBuffer = rx.rxBuffer := by cases hstart <;> rfl
        exact .rejected (by simp [hacc, hfit]) hbuf (.inl rfl)
    · rw [hv] at hacc
      simp only [processReceive, hv]
      exact .rejected (by simp [hacc]) rfl (.inr ⟨rfl, rfl⟩)

/-- The receiver after some segments. -/
def after (rx : TransportRx) (tpdus : List (List UInt8)) : TransportRx :=
  tpdus.foldl (fun rx tpdu => (rx.processReceive tpdu).2) rx

@[simp] theorem after_nil (rx : TransportRx) : rx.after [] = rx := rfl

@[simp] theorem after_cons (rx : TransportRx) (tpdu : List UInt8) (tpdus : List (List UInt8)) :
    rx.after (tpdu :: tpdus) = (rx.processReceive tpdu).2.after tpdus := rfl

theorem after_concat (rx : TransportRx) (tpdus : List (List UInt8)) (tpdu : List UInt8) :
    rx.after (tpdus ++ [tpdu]) = ((rx.after tpdus).processReceive tpdu).2 := by
  simp [after]

/-- The segments a receiver is given, each with whether it accepted it. -/
def trace (rx : TransportRx) : List (List UInt8) → List (List UInt8 × Bool)
  | [] => []
  | tpdu :: tpdus => (tpdu, rx.accepts tpdu) :: trace (rx.processReceive tpdu).2 tpdus

theorem trace_concat (rx : TransportRx) (tpdus : List (List UInt8)) (tpdu : List UInt8) :
    rx.trace (tpdus ++ [tpdu]) = rx.trace tpdus ++ [(tpdu, (rx.after tpdus).accepts tpdu)] := by
  induction tpdus generalizing rx with
  | nil => rfl
  | cons t tpdus ih => simp only [List.cons_append, trace, ih, after_cons]

/-! ## Bytes stored in the buffer -/

@[simp] theorem store_numBytesRead (rx : TransportRx) (bytes : List UInt8) :
    (rx.store bytes).numBytesRead = rx.numBytesRead + bytes.length := rfl

@[simp] theorem store_sequence (rx : TransportRx) (bytes : List UInt8) :
    (rx.store bytes).sequence = nextSeq rx.sequence := rfl

variable {rx start : TransportRx} {bytes : List UInt8} {hdr : UInt8}

theorem length_store (hle : rx.numBytesRead ≤ rx.rxBuffer.length)
    (hfit : bytes.length ≤ rx.available) :
    (rx.store bytes).rxBuffer.length = rx.rxBuffer.length := by
  unfold available at hfit
  exact length_splice (by omega)

theorem received_store (bytes : List UInt8) (hle : rx.numBytesRead ≤ rx.rxBuffer.length) :
    (rx.store bytes).received = rx.received ++ bytes :=
  take_splice_end bytes hle

theorem Start.rxBuffer_eq (h : Start rx hdr start) : start.rxBuffer = rx.rxBuffer := by
  cases h <;> rfl

theorem Start.numBytesRead_le (h : Start rx hdr start)
    (hle : rx.numBytesRead ≤ rx.rxBuffer.length) :
    start.numBytesRead ≤ start.rxBuffer.length := by
  cases h with
  | fir => exact Nat.zero_le _
  | next => exact hle

end TransportRx

/-! ## Fragments -/

/-- The segments of a trace that were accepted. -/
def accepted (trace : List (List UInt8 × Bool)) : List (List UInt8) :=
  (trace.filter Prod.snd).map Prod.fst

/-- The segments accepted from some point of the trace on: the first one alone has the FIR bit, and
their sequence numbers are consecutive. -/
structure Fragment (trace : List (List UInt8 × Bool)) (segments : List (List UInt8)) : Prop where
  suffix : ∃ before first rest, trace = before ++ (first, true) :: rest ∧
    segments = first :: accepted rest ∧ isFirst (header first) = true ∧
    ∀ t ∈ accepted rest, isFirst (header t) = false
  consecutive : segments.IsChain fun t u => seqOf (header u) = nextSeq (seqOf (header t))

namespace Fragment

variable {trace : List (List UInt8 × Bool)} {segments : List (List UInt8)} {t : List UInt8}

/-- A segment with the FIR bit starts a fragment. -/
theorem start (trace : List (List UInt8 × Bool)) (ht : isFirst (header t) = true) :
    Fragment (trace ++ [(t, true)]) [t] :=
  ⟨⟨trace, t, [], rfl, rfl, ht, fun _ h => by cases h⟩, List.isChain_singleton t⟩

/-- A segment that is rejected does not belong to the fragment. -/
theorem skip (h : Fragment trace segments) : Fragment (trace ++ [(t, false)]) segments := by
  obtain ⟨before, first, rest, rfl, hseg, hfir, hrest⟩ := h.suffix
  have hacc : accepted (rest ++ [(t, false)]) = accepted rest := by simp [accepted]
  exact ⟨⟨before, first, rest ++ [(t, false)], by simp, by rw [hacc, hseg], hfir,
    by rwa [hacc]⟩, h.consecutive⟩

/-- A segment with the next sequence number continues the fragment. -/
theorem snoc (h : Fragment trace segments) (ht : isFirst (header t) = false) {last : List UInt8}
    (hlast : segments.getLast? = some last)
    (hseq : seqOf (header t) = nextSeq (seqOf (header last))) :
    Fragment (trace ++ [(t, true)]) (segments ++ [t]) := by
  obtain ⟨before, first, rest, rfl, hseg, hfir, hrest⟩ := h.suffix
  have hacc : accepted (rest ++ [(t, true)]) = accepted rest ++ [t] := by simp [accepted]
  refine ⟨⟨before, first, rest ++ [(t, true)], by simp, by rw [hacc, hseg]; rfl, hfir, ?_⟩, ?_⟩
  · rw [hacc]
    intro u hu
    rcases List.mem_append.mp hu with hu | hu
    · exact hrest u hu
    · rw [List.mem_singleton.mp hu]
      exact ht
  · refine List.isChain_append.mpr ⟨h.consecutive, List.isChain_singleton t, ?_⟩
    intro u hu v hv
    rw [hlast, Option.mem_some_iff] at hu
    rw [List.head?_cons, Option.mem_some_iff] at hv
    rw [← hu, ← hv]
    exact hseq

end Fragment

/-- The payloads of segments, one after the other. -/
def payloads (segments : List (List UInt8)) : List UInt8 := (segments.map payload).flatten

/-- A receiver that holds bytes holds the payloads of a fragment without a FIN segment, and expects
the sequence number after its last one. -/
structure Collected (rx : TransportRx) (trace : List (List UInt8 × Bool)) : Prop where
  numBytesRead_le : rx.numBytesRead ≤ rx.rxBuffer.length
  fragment : 0 < rx.numBytesRead → ∃ segments last, Fragment trace segments ∧
    (∀ t ∈ segments, isLast (header t) = false) ∧ segments.getLast? = some last ∧
    rx.received = payloads segments ∧ rx.sequence = nextSeq (seqOf (header last))

/-- The result is made of the payloads of a fragment that ends with the FIN segment just
received. -/
structure Assembled (trace : List (List UInt8 × Bool)) (result : List UInt8) (t : List UInt8) :
    Prop where
  last : isLast (header t) = true
  current : ∃ past, trace = past ++ [(t, true)]
  fragment : ∃ segments, Fragment trace (segments ++ [t]) ∧
    (∀ u ∈ segments, isLast (header u) = false) ∧ result = payloads (segments ++ [t])

namespace Collected

open TransportRx

variable {rx start : TransportRx} {trace : List (List UInt8 × Bool)}

/-- Storing a segment continues the fragment that the receiver holds, or starts a new one. -/
theorem store (h : Collected rx trace) {hdr : UInt8} (bytes : List UInt8)
    (hstart : Start rx hdr start) :
    ∃ segments, Fragment (trace ++ [(hdr :: bytes, true)]) (segments ++ [hdr :: bytes]) ∧
      (∀ t ∈ segments, isLast (header t) = false) ∧
      (start.store bytes).received = payloads (segments ++ [hdr :: bytes]) ∧
      (start.store bytes).sequence = nextSeq (seqOf hdr) := by
  have hrecv := received_store bytes (hstart.numBytesRead_le h.numBytesRead_le)
  cases hstart with
  | fir hfir =>
    refine ⟨[], Fragment.start trace hfir, fun _ h => (by cases h), ?_, rfl⟩
    rw [hrecv]
    simp [received, payloads, payload]
  | next hfir hpos hseq =>
    obtain ⟨segments, last, hfrag, hfin, hlast, hrx, hexp⟩ := h.fragment hpos
    refine ⟨segments, hfrag.snoc hfir hlast (hseq.trans hexp), hfin, ?_, ?_⟩
    · rw [hrecv, hrx]
      simp [payloads, payload]
    · rw [store_sequence, hseq]

/-- What one segment preserves, and what it completes. -/
theorem step (h : Collected rx trace) (t : List UInt8) :
    Collected (rx.processReceive t).2 (trace ++ [(t, rx.accepts t)]) ∧
      (rx.processReceive t).2.rxBuffer.length = rx.rxBuffer.length ∧
      (rx.processReceive t).1.length ≤ rx.rxBuffer.length ∧
      ((rx.processReceive t).1 ≠ [] →
        Assembled (trace ++ [(t, rx.accepts t)]) (rx.processReceive t).1 t) := by
  have hrec := rx.processReceive_received t
  generalize rx.processReceive t = out at hrec ⊢
  obtain ⟨result, rx'⟩ := out
  dsimp only at hrec ⊢
  have hle := h.numBytesRead_le
  cases hrec with
  | rejected ha hbuf hkeep =>
    rw [ha]
    refine ⟨⟨?_, fun hpos => ?_⟩, congrArg List.length hbuf, Nat.zero_le _, fun h => absurd rfl h⟩
    · rw [hbuf]
      omega
    · rcases hkeep with h0 | ⟨hn, hs⟩
      · omega
      · obtain ⟨segments, last, hfrag, hfin, hlast, hrx, hexp⟩ := h.fragment (hn ▸ hpos)
        refine ⟨segments, last, hfrag.skip, hfin, hlast, ?_, hs.trans hexp⟩
        rw [← hrx, received, received, hbuf, hn]
  | stored ha hstart hfit hlast =>
    rename_i hdr bytes start
    rw [ha]
    have hle' := hstart.numBytesRead_le hle
    have hlen := length_store hle' hfit
    obtain ⟨segments, hfrag, hfin, hrx, hexp⟩ := h.store bytes hstart
    refine ⟨⟨?_, fun _ => ⟨_, _, hfrag, ?_, List.getLast?_concat, hrx, hexp⟩⟩,
      hlen.trans (congrArg List.length hstart.rxBuffer_eq), Nat.zero_le _, fun h => absurd rfl h⟩
    · rw [hlen, store_numBytesRead]
      unfold available at hfit
      omega
    · intro u hu
      rcases List.mem_append.mp hu with hu | hu
      · exact hfin u hu
      · rw [List.mem_singleton.mp hu]
        exact hlast
  | completed ha hstart hfit hlast =>
    rename_i hdr bytes start
    rw [ha]
    have hle' := hstart.numBytesRead_le hle
    have hlen := length_store hle' hfit
    have hbuf : (start.store bytes).rxBuffer.length = rx.rxBuffer.length :=
      hlen.trans (congrArg List.length hstart.rxBuffer_eq)
    obtain ⟨segments, hfrag, hfin, hrx, hexp⟩ := h.store bytes hstart
    refine ⟨⟨Nat.zero_le _, fun hpos => absurd hpos (Nat.lt_irrefl 0)⟩, hbuf, ?_, fun _ =>
      ⟨hlast, ⟨trace, rfl⟩, segments, hfrag, hfin, hrx⟩⟩
    rw [← hbuf]
    exact (List.length_take_le' _ _)

theorem initial (rxBuffer : List UInt8) (pStatistics : Option StackStatistics) :
    Collected (.initial rxBuffer pStatistics) [] :=
  ⟨Nat.zero_le _, fun hpos => absurd hpos (Nat.lt_irrefl 0)⟩

/-- The receiver holds a fragment after any segments. -/
theorem after (rxBuffer : List UInt8) (pStatistics : Option StackStatistics)
    (tpdus : List (List UInt8)) :
    Collected ((TransportRx.initial rxBuffer pStatistics).after tpdus)
        ((TransportRx.initial rxBuffer pStatistics).trace tpdus) ∧
      ((TransportRx.initial rxBuffer pStatistics).after tpdus).rxBuffer.length =
        rxBuffer.length := by
  induction tpdus using List.reverseRecOn with
  | nil => exact ⟨initial rxBuffer pStatistics, rfl⟩
  | append_singleton tpdus t ih =>
    rw [after_concat, trace_concat]
    obtain ⟨hcol, hlen, -⟩ := ih.1.step t
    exact ⟨hcol, hlen.trans ih.2⟩

end Collected

/-- After any segments, a result of the receiver that is not empty is made of the payloads of the
segments it accepted from one with the FIR bit up to this one with the FIN bit; neither the result
nor the bytes held exceed the buffer. -/
theorem processReceive_assembled (rxBuffer : List UInt8) (pStatistics : Option StackStatistics)
    (tpdus : List (List UInt8)) (t : List UInt8) :
    let rx := TransportRx.initial rxBuffer pStatistics
    let result := ((rx.after tpdus).processReceive t).1
    (result ≠ [] → Assembled (rx.trace (tpdus ++ [t])) result t) ∧
      result.length ≤ rxBuffer.length ∧ (rx.after tpdus).numBytesRead ≤ rxBuffer.length := by
  obtain ⟨hcol, hlen⟩ := Collected.after rxBuffer pStatistics tpdus
  obtain ⟨-, -, hle, hres⟩ := hcol.step t
  refine ⟨?_, hlen ▸ hle, hlen ▸ hcol.numBytesRead_le⟩
  rw [TransportRx.trace_concat]
  exact hres

end Transport
end Dnp3
