import Dnp3.Library.Scanner
import Dnp3.Link.Parser

/-!
# Chunking invariance of the link layer parser

What the parser does to its unread bytes is a scanner in the sense of `Dnp3.Library.Scanner`: skip a
byte that does not start the sync sequence, wait for a header, give a bad header or a bad body up by
one byte, wait for a body, emit a frame.  Every one of these steps looks at a prefix of the pending
bytes only, so the scanner is resumable (`frameScanner`).

The parser follows the scanner (`follows_frameScanner`): the states of its machine say how much is
already known about the bytes in front, the fuel of its loops is enough, and neither the in-place
extraction of the user data nor the shift of the buffer touches a byte that is still unread.
Therefore the frames it delivers depend on the stream only, not on how it is cut.
-/

namespace Dnp3
namespace Link

open Library

/-! ## The scanner -/

/-- The sync bytes stand in front. -/
def Synced (b : List UInt8) : Prop := b.getD 0 0 = 0x05 ∧ b.getD 1 0 = 0x64

instance (b : List UInt8) : Decidable (Synced b) := inferInstanceAs (Decidable (_ ∧ _))

/-- The header parameters are consistent. -/
def consistent (h : LinkHeader) : Bool :=
  h.validLength && LinkLayerParser.validateFunctionCode h &&
    (LinkLayerParser.carriesUserData h == decide (LinkLayerParser.userDataLength h > 0))

/-- The header in front has its CRC and consistent parameters. -/
def goodHeader (b : List UInt8) : Bool := CRC.isCorrectCRC b 8 && consistent (.read b)

/-- The number of user data bytes announced by the header in front. -/
def bodyLength (b : List UInt8) : Nat := (LinkHeader.read b).length.toNat - LPDU_MIN_LENGTH

/-- The size of the frame in front. -/
def frameSize (b : List UInt8) : Nat := 10 + LinkFrame.bodySize (bodyLength b)

/-- Every block of the body in front has its CRC. -/
def goodBody (b : List UInt8) : Bool := LinkFrame.validateBodyCRC (b.drop 10) (bodyLength b)

/-- The frame in front. -/
def frameOf (b : List UInt8) : Frame :=
  ((LinkHeader.read b).fields, LinkFrame.userData (b.drop 10) (bodyLength b))

/-- One productive step on the pending bytes. -/
def scanNext (b : List UInt8) : Option (List UInt8 × List Frame) :=
  if b.length ≤ 1 then none
  else if ¬ Synced b then some (b.drop 1, [])
  else if b.length < 10 then none
  else if ¬ goodHeader b then some (b.drop 1, [])
  else if b.length < frameSize b then none
  else if goodBody b then some (b.drop (frameSize b), [frameOf b])
  else some (b.drop 1, [])

theorem synced_append {b : List UInt8} (z : List UInt8) (h : 1 < b.length) :
    Synced (b ++ z) ↔ Synced b := by
  rw [Synced, Synced, List.getD_append _ _ _ _ (by omega), List.getD_append _ _ _ _ h]

theorem goodHeader_append {b : List UInt8} (z : List UInt8) (h : 10 ≤ b.length) :
    goodHeader (b ++ z) = goodHeader b := by
  rw [goodHeader, goodHeader, LinkFrame.isCorrectCRC_append b z 8 h, LinkFrame.read_append z h]

theorem bodyLength_append {b : List UInt8} (z : List UInt8) (h : 10 ≤ b.length) :
    bodyLength (b ++ z) = bodyLength b := by
  rw [bodyLength, bodyLength, LinkFrame.read_append z h]

theorem frameSize_append {b : List UInt8} (z : List UInt8) (h : 10 ≤ b.length) :
    frameSize (b ++ z) = frameSize b := by
  rw [frameSize, frameSize, bodyLength_append z h]

theorem bodySize_le_drop {b : List UInt8} (h : frameSize b ≤ b.length) :
    LinkFrame.bodySize (bodyLength b) ≤ (b.drop 10).length := by
  rw [frameSize] at h
  rw [List.length_drop]
  omega

theorem goodBody_append {b : List UInt8} (z : List UInt8) (h10 : 10 ≤ b.length)
    (h : frameSize b ≤ b.length) : goodBody (b ++ z) = goodBody b := by
  rw [goodBody, goodBody, bodyLength_append z h10, List.drop_append_of_le_length h10,
    LinkFrame.validateBodyCRC_append _ _ _ (bodySize_le_drop h)]

theorem frameOf_append {b : List UInt8} (z : List UInt8) (h10 : 10 ≤ b.length)
    (h : frameSize b ≤ b.length) : frameOf (b ++ z) = frameOf b := by
  rw [frameOf, frameOf, LinkFrame.read_append z h10, bodyLength_append z h10,
    List.drop_append_of_le_length h10, LinkFrame.userData_append _ _ _ (bodySize_le_drop h)]

/-- The productive steps, one constructor for each. -/
inductive ScanStep (b : List UInt8) : List UInt8 → List Frame → Prop where
  | skip : 1 < b.length → ¬ Synced b → ScanStep b (b.drop 1) []
  | badHeader : 10 ≤ b.length → Synced b → goodHeader b = false → ScanStep b (b.drop 1) []
  | badBody : 10 ≤ b.length → Synced b → goodHeader b = true → frameSize b ≤ b.length →
      goodBody b = false → ScanStep b (b.drop 1) []
  | frame : 10 ≤ b.length → Synced b → goodHeader b = true → frameSize b ≤ b.length →
      goodBody b = true → ScanStep b (b.drop (frameSize b)) [frameOf b]

theorem ScanStep.of_scanNext {b r : List UInt8} {o : List Frame}
    (h : scanNext b = some (r, o)) : ScanStep b r o := by
  unfold scanNext at h
  split_ifs at h with h1 hs h10 hh hf hb <;>
    simp only [Option.some.injEq, Prod.mk.injEq] at h <;> obtain ⟨rfl, rfl⟩ := h
  · exact .frame (by omega) hs hh (by omega) hb
  · exact .badBody (by omega) hs hh (by omega) (Bool.eq_false_iff.mpr hb)
  · exact .badHeader (by omega) hs (Bool.eq_false_iff.mpr hh)
  · exact .skip (by omega) hs

theorem ScanStep.scanNext_eq {b r : List UInt8} {o : List Frame} (h : ScanStep b r o) :
    scanNext b = some (r, o) := by
  unfold scanNext
  cases h with
  | skip h1 hs => rw [if_neg (by omega), if_pos hs]
  | badHeader h10 hs hh =>
    rw [if_neg (by omega), if_neg (not_not.mpr hs), if_neg (by omega),
      if_pos (Bool.eq_false_iff.mp hh)]
  | badBody h10 hs hh hf hb =>
    rw [if_neg (by omega), if_neg (not_not.mpr hs), if_neg (by omega), if_neg (not_not.mpr hh),
      if_neg (by omega), if_neg (Bool.eq_false_iff.mp hb)]
  | frame h10 hs hh hf hb =>
    rw [if_neg (by omega), if_neg (not_not.mpr hs), if_neg (by omega), if_neg (not_not.mpr hh),
      if_neg (by omega), if_pos hb]

theorem ten_le_frameSize (b : List UInt8) : 10 ≤ frameSize b := Nat.le_add_right 10 _

/-- A step uses up at least one byte. -/
theorem ScanStep.shrinks {b r : List UInt8} {o : List Frame} (h : ScanStep b r o) :
    r.length < b.length := by
  have hsize := ten_le_frameSize b
  cases h <;> rw [List.length_drop] <;> omega

/-- A step that is possible stays possible when more bytes arrive. -/
theorem ScanStep.append {b r : List UInt8} {o : List Frame} (h : ScanStep b r o)
    (z : List UInt8) : ScanStep (b ++ z) (r ++ z) o := by
  have hlen : b.length ≤ (b ++ z).length := by
    rw [List.length_append]
    omega
  cases h with
  | skip h1 hs =>
    rw [← List.drop_append_of_le_length (by omega)]
    exact .skip (by omega) (mt (synced_append z h1).mp hs)
  | badHeader h10 hs hh =>
    rw [← List.drop_append_of_le_length (by omega)]
    exact .badHeader (by omega) ((synced_append z (by omega)).mpr hs)
      ((goodHeader_append z h10).trans hh)
  | badBody h10 hs hh hf hb =>
    rw [← List.drop_append_of_le_length (by omega)]
    exact .badBody (by omega) ((synced_append z (by omega)).mpr hs)
      ((goodHeader_append z h10).trans hh) (by rw [frameSize_append z h10]; omega)
      ((goodBody_append z h10 hf).trans hb)
  | frame h10 hs hh hf hb =>
    have hstep := ScanStep.frame (b := b ++ z) (by omega) ((synced_append z (by omega)).mpr hs)
      ((goodHeader_append z h10).trans hh) (by rw [frameSize_append z h10]; omega)
      ((goodBody_append z h10 hf).trans hb)
    rwa [frameSize_append z h10, frameOf_append z h10 hf,
      List.drop_append_of_le_length hf] at hstep

/-- The link layer parser as a scanner of its pending bytes. -/
def frameScanner : Scanner UInt8 Frame where
  next := scanNext
  shrinks h := (ScanStep.of_scanNext h).shrinks
  stable z h := ((ScanStep.of_scanNext h).append z).scanNext_eq

/-- A silent step changes nothing. -/
theorem ScanStep.scan_eq {b r : List UInt8} (h : ScanStep b r []) :
    frameScanner.scan b = frameScanner.scan r :=
  Scanner.scan_of_next_silent h.scanNext_eq

/-- A frame step emits its frame. -/
theorem ScanStep.scan_frame {b r : List UInt8} {f : Frame} (h : ScanStep b r [f]) :
    frameScanner.scan b = ((frameScanner.scan r).1, f :: (frameScanner.scan r).2) := by
  rw [Scanner.scan_of_next_some (S := frameScanner) h.scanNext_eq, List.singleton_append]

/-- Fewer than ten bytes hold no frame. -/
theorem scan_of_length_lt_ten {b : List UInt8} (h : b.length < 10) :
    (frameScanner.scan b).2 = [] := by
  induction b using Scanner.scan_induction (S := frameScanner) with
  | stop b hnext => rw [Scanner.scan_of_next_none hnext]
  | step b r o hnext ih =>
    have hstep := ScanStep.of_scanNext hnext
    have hlt := hstep.shrinks
    cases hstep with
    | skip h1 hs => rw [ScanStep.scan_eq (.skip h1 hs), ih (by omega)]
    | badHeader h10 => omega
    | badBody h10 => omega
    | frame h10 => omega

/-! ## The receive buffer -/

namespace ShiftableBuffer

/-- The positions are in order. -/
structure Ordered (b : ShiftableBuffer) : Prop where
  read_le : b.readPos ≤ b.writePos
  write_le : b.writePos ≤ b.M_SIZE

theorem length_readBuffer {b : ShiftableBuffer} (h : b.Ordered) :
    b.readBuffer.length = b.numBytesRead := by
  have := h.write_le
  rw [readBuffer, List.length_take, List.length_drop]
  simp only [M_SIZE, numBytesRead] at *
  omega

theorem ordered_advanceRead {b : ShiftableBuffer} (h : b.Ordered) {n : Nat}
    (hn : n ≤ b.numBytesRead) : (b.advanceRead n).Ordered := by
  have := h.read_le
  refine ⟨?_, h.write_le⟩
  simp only [advanceRead, numBytesRead] at *
  omega

theorem readBuffer_advanceRead (b : ShiftableBuffer) (n : Nat) :
    (b.advanceRead n).readBuffer = b.readBuffer.drop n := by
  simp only [readBuffer, advanceRead, numBytesRead, List.drop_take, List.drop_drop]
  congr 1
  omega

theorem ordered_shift {b : ShiftableBuffer} (h : b.Ordered) : b.shift.Ordered := by
  have hlen := length_readBuffer h
  have hw := h.write_le
  refine ⟨Nat.zero_le _, ?_⟩
  simp only [shift, M_SIZE, memmove, numBytesRead, readBuffer] at *
  rw [length_splice (by omega)]
  omega

/-- Shifting moves the unread bytes and changes none. -/
theorem readBuffer_shift {b : ShiftableBuffer} (h : b.Ordered) :
    b.shift.readBuffer = b.readBuffer := by
  have hlen := length_readBuffer h
  have hread := take_drop_splice b.readBuffer (Nat.zero_le b.pBuffer.length)
  rwa [hlen] at hread

theorem ordered_store {b : ShiftableBuffer} (h : b.Ordered) {chunk : List UInt8}
    (hc : chunk.length ≤ b.numWriteBytes) :
    ((b.store chunk).advanceWrite chunk.length).Ordered := by
  have hr := h.read_le
  have hw := h.write_le
  simp only [numWriteBytes, M_SIZE] at *
  refine ⟨?_, ?_⟩
  · simp only [store, advanceWrite]
    omega
  · simp only [store, advanceWrite, M_SIZE]
    rw [length_splice (by omega)]
    omega

/-- A stored chunk is appended to the unread bytes. -/
theorem readBuffer_store {b : ShiftableBuffer} (h : b.Ordered) {chunk : List UInt8} :
    ((b.store chunk).advanceWrite chunk.length).readBuffer = b.readBuffer ++ chunk := by
  have hr := h.read_le
  have hw := h.write_le
  have hbefore : b.readBuffer = (b.pBuffer.take b.writePos).drop b.readPos := by
    rw [readBuffer, numBytesRead, List.drop_take]
  have hafter : ((b.store chunk).advanceWrite chunk.length).readBuffer =
      ((splice b.pBuffer b.writePos chunk).take (b.writePos + chunk.length)).drop b.readPos := by
    rw [readBuffer, numBytesRead, List.drop_take]
    rfl
  have hle : b.readPos ≤ (b.pBuffer.take b.writePos).length := by
    rw [List.length_take]
    exact Nat.le_min.mpr ⟨hr, Nat.le_trans hr hw⟩
  rw [hafter, hbefore, take_splice_end chunk hw, List.drop_append_of_le_length hle]

end ShiftableBuffer

namespace ShiftableBuffer

/-- Looking for the sync bytes makes silent steps only. -/
theorem sync_spec (b : ShiftableBuffer) (h : b.Ordered) :
    b.sync.1.Ordered ∧ b.sync.1.M_SIZE = b.M_SIZE ∧
      b.sync.1.readBuffer.length ≤ b.readBuffer.length ∧
      frameScanner.scan b.sync.1.readBuffer = frameScanner.scan b.readBuffer ∧
      (if b.sync.2 then 1 < b.sync.1.readBuffer.length ∧ Synced b.sync.1.readBuffer
        else b.sync.1.readBuffer.length ≤ 1) := by
  induction b using sync.induct with
  | case1 b h1 hs =>
    rw [sync, if_pos h1, if_pos hs]
    exact ⟨h, rfl, Nat.le_refl _, rfl, by rw [length_readBuffer h]; exact ⟨h1, hs⟩⟩
  | case2 b h1 hs ih =>
    rw [sync, if_pos h1, if_neg hs]
    obtain ⟨hord, hsize, hlen, hscan, hfound⟩ := ih (ordered_advanceRead h (by omega))
    have hb := length_readBuffer h
    have hstep := ScanStep.skip (b := b.readBuffer) (by omega) hs
    rw [readBuffer_advanceRead] at hlen hscan
    refine ⟨hord, hsize, Nat.le_trans hlen ?_, hscan.trans hstep.scan_eq.symm, hfound⟩
    rw [List.length_drop]
    omega
  | case3 b h1 =>
    rw [sync, if_neg h1]
    exact ⟨h, rfl, Nat.le_refl _, rfl, by rw [length_readBuffer h]; exact Nat.le_of_not_lt h1⟩

end ShiftableBuffer

/-! ## The parser follows the scanner -/

namespace LinkLayerParser

/-- The bytes the parser holds. -/
def unread (p : LinkLayerParser) : List UInt8 := p.buffer.readBuffer

@[simp] theorem unread_setState (p : LinkLayerParser) (s : State) :
    (p.setState s).unread = p.unread := rfl

/-- What the state of the machine says about the bytes in front. -/
def Knows (p : LinkLayerParser) : Prop :=
  match p.state with
  | .findSync => True
  | .readHeader => 1 < p.unread.length ∧ Synced p.unread
  | .readBody => 10 ≤ p.unread.length ∧ Synced p.unread ∧ goodHeader p.unread = true ∧
      p.header = .read p.unread ∧ p.frameSize = Link.frameSize p.unread
  | .complete => False

/-- The invariant of the parser between two steps that do not complete a frame. -/
structure Valid (p : LinkLayerParser) : Prop where
  ordered : p.buffer.Ordered
  capacity : p.buffer.M_SIZE = LPDU_MAX_FRAME_SIZE
  knows : p.Knows

/-- A complete frame `f` waits to be pushed; `rest` are the bytes behind it. -/
structure Ready (p : LinkLayerParser) (f : Frame) (rest : List UInt8) : Prop where
  ordered : p.buffer.Ordered
  capacity : p.buffer.M_SIZE = LPDU_MAX_FRAME_SIZE
  complete : p.state = .complete
  size_le : p.frameSize ≤ p.buffer.numBytesRead
  frame_eq : (p.header.fields, p.buffer.pBuffer.take p.userDataLen) = f
  rest_eq : p.unread.drop p.frameSize = rest

theorem userDataLength_toNat {h : LinkHeader} (hv : h.validLength = true) :
    (userDataLength h).toNat = h.length.toNat - 5 := by
  have hlt : 4 < h.length.toNat := by
    simpa [LinkHeader.validLength, UInt8.lt_iff_toNat_lt] using hv
  rw [userDataLength, UInt8.toNat_sub_of_le _ _ (by
    rw [UInt8.le_iff_toNat_le]
    exact hlt)]
  rfl

theorem frameSize_le (b : List UInt8) : Link.frameSize b ≤ LPDU_MAX_FRAME_SIZE := by
  have := (LinkHeader.read b).length.toNat_lt
  simp only [Link.frameSize, bodyLength, LinkFrame.bodySize, LPDU_MAX_FRAME_SIZE, LPDU_MIN_LENGTH]
  omega

/-- The validation accepts exactly the consistent headers, and sets the size of the frame. -/
theorem validateHeaderParameters_spec (p : LinkLayerParser) :
    p.validateHeaderParameters.2 = consistent p.header ∧
      p.validateHeaderParameters.1.buffer = p.buffer ∧
      p.validateHeaderParameters.1.header = p.header ∧
      (consistent p.header = true → p.validateHeaderParameters.1.frameSize =
        LinkFrame.calcFrameSize (userDataLength p.header)) := by
  unfold validateHeaderParameters consistent
  cases hl : p.header.validLength
  · simp
  cases hf : validateFunctionCode p.header
  · simp
  cases hc : carriesUserData p.header <;>
    by_cases hd : userDataLength p.header > 0 <;> simp [hc, hd]

theorem readHeader_spec (p : LinkLayerParser) :
    p.readHeader.2 = goodHeader p.unread ∧ p.readHeader.1.buffer = p.buffer ∧
      p.readHeader.1.header = .read p.unread ∧
      (goodHeader p.unread = true → p.readHeader.1.frameSize = Link.frameSize p.unread) := by
  obtain ⟨hvalid, hbuffer, hheader, hsize⟩ := validateHeaderParameters_spec p.loadHeader
  unfold readHeader goodHeader unread
  cases hcrc : CRC.isCorrectCRC p.buffer.readBuffer 8
  · simp [hcrc]
  · cases hc : consistent (.read p.buffer.readBuffer)
    · rw [loadHeader_header, hc] at hvalid
      simp [hcrc, hvalid, hbuffer, hheader]
    · rw [loadHeader_header, hc] at hvalid
      refine ⟨?_, ?_, ?_, fun _ => ?_⟩ <;> simp [hcrc, hvalid, hbuffer, hheader]
      rw [hsize hc, LinkFrame.calcFrameSize_eq, userDataLength_toNat, loadHeader_header]
      · rfl
      · simp only [consistent, Bool.and_eq_true] at hc
        exact hc.1.1

/-- Extracting the user data fills the front of the memory with it. -/
theorem transferUserData_pBuffer {p : LinkLayerParser} (ho : p.buffer.Ordered)
    (hh : p.header = .read p.unread) (hle : Link.frameSize p.unread ≤ p.buffer.numBytesRead) :
    p.transferUserData.buffer.pBuffer =
      splice p.buffer.pBuffer 0 (LinkFrame.userData (p.unread.drop 10) (bodyLength p.unread)) := by
  have hr := ho.read_le
  have hw := ho.write_le
  have hlen : p.unread.length = p.buffer.numBytesRead := ShiftableBuffer.length_readBuffer ho
  rw [Link.frameSize] at hle
  simp only [ShiftableBuffer.numBytesRead, ShiftableBuffer.M_SIZE] at *
  have hbody : p.header.length.toNat - LPDU_MIN_LENGTH = bodyLength p.unread := by
    rw [hh, bodyLength]
  have hfront : p.buffer.pBuffer.drop (p.buffer.readPos + 10) =
      p.unread.drop 10 ++ p.buffer.pBuffer.drop p.buffer.writePos := by
    rw [unread, ShiftableBuffer.readBuffer, ShiftableBuffer.numBytesRead, List.drop_take,
      List.drop_drop]
    conv => lhs; rw [← List.take_append_drop (p.buffer.writePos - p.buffer.readPos - 10)
      (p.buffer.pBuffer.drop (p.buffer.readPos + 10))]
    rw [List.drop_drop, show p.buffer.readPos + 10 + (p.buffer.writePos - p.buffer.readPos - 10) =
      p.buffer.writePos by omega]
  have hbehind : LinkFrame.bodySize (bodyLength p.unread) ≤ (p.unread.drop 10).length := by
    rw [List.length_drop, hlen]
    omega
  unfold transferUserData
  simp only [LPDU_HEADER_SIZE]
  rw [hbody, LinkFrame.readUserData_eq _ _ _ _ (Nat.zero_le _) (by omega), hfront,
    LinkFrame.userData_append _ _ _ hbehind]

/-- A good body is moved to the front of the memory, and nothing behind the frame changes. -/
theorem ready_transferUserData {p : LinkLayerParser} (ho : p.buffer.Ordered)
    (hcap : p.buffer.M_SIZE = LPDU_MAX_FRAME_SIZE) (hh : p.header = .read p.unread)
    (hs : p.frameSize = Link.frameSize p.unread) (hle : p.frameSize ≤ p.buffer.numBytesRead) :
    Ready (p.transferUserData.setState .complete) (frameOf p.unread)
      (p.unread.drop (Link.frameSize p.unread)) := by
  have hr := ho.read_le
  have hw := ho.write_le
  have hmem := transferUserData_pBuffer ho hh (hs ▸ hle)
  have hunread : p.unread.length = p.buffer.numBytesRead := ShiftableBuffer.length_readBuffer ho
  have hbody : (LinkFrame.userData (p.unread.drop 10) (bodyLength p.unread)).length =
      bodyLength p.unread :=
    LinkFrame.length_userData _ _ (bodySize_le_drop (by omega))
  have hfits : bodyLength p.unread ≤ Link.frameSize p.unread := by
    simp only [Link.frameSize, LinkFrame.bodySize]
    omega
  have hsize : p.transferUserData.buffer.M_SIZE = p.buffer.M_SIZE := by
    rw [ShiftableBuffer.M_SIZE, hmem, length_splice, ShiftableBuffer.M_SIZE]
    simp only [ShiftableBuffer.numBytesRead, ShiftableBuffer.M_SIZE] at *
    omega
  refine ⟨⟨hr, ?_⟩, hsize.trans hcap, rfl, hle, ?_, ?_⟩
  · exact Nat.le_trans hw (Nat.le_of_eq hsize.symm)
  · have htake := take_splice_end
      (LinkFrame.userData (p.unread.drop 10) (bodyLength p.unread))
      (Nat.zero_le p.buffer.pBuffer.length)
    rw [Nat.zero_add, List.take_zero, List.nil_append, hbody] at htake
    have hlen : p.transferUserData.userDataLen = bodyLength p.unread := by
      simp only [transferUserData]
      rw [hh, bodyLength]
    have hfields : p.transferUserData.header = .read p.unread := hh
    rw [setState_header, setState_buffer, hfields, hmem]
    exact Prod.ext rfl ((congrArg (List.take · _) hlen).trans htake)
  · have hdrop : (p.transferUserData.buffer.pBuffer).drop (p.buffer.readPos + p.frameSize) =
        p.buffer.pBuffer.drop (p.buffer.readPos + p.frameSize) := by
      rw [hmem, drop_splice (Nat.zero_le _) (by omega)]
    have hbefore : p.unread.drop p.frameSize =
        (p.buffer.pBuffer.drop (p.buffer.readPos + p.frameSize)).take
          (p.buffer.numBytesRead - p.frameSize) := by
      rw [unread, ShiftableBuffer.readBuffer, List.drop_take, List.drop_drop]
    rw [← hs, hbefore, ← hdrop]
    simp only [unread, ShiftableBuffer.readBuffer, List.drop_take, List.drop_drop]
    rfl

/-- The steps the machine can still take on the same unread bytes. -/
def State.rank : State → Nat
  | .findSync => 3
  | .readHeader => 2
  | .readBody => 1
  | .complete => 0

/-- The steps left to the machine without further input are bounded by this. -/
def measure (p : LinkLayerParser) : Nat := 4 * p.unread.length + p.state.rank

/-- `parseOneStep` with the state it returns. -/
def stepped (p : LinkLayerParser) : LinkLayerParser :=
  p.parseOneStep.1.setState p.parseOneStep.2

/-- The outcomes of one step: the parser waits for input, it makes progress that the scanner does
not see or sees as a silent step, or it completes a frame. -/
inductive Outcome (p q : LinkLayerParser) : Prop where
  | waits : q.Valid → q.state = p.state → frameScanner.scan q.unread = frameScanner.scan p.unread →
      (frameScanner.scan q.unread).2 = [] → q.unread.length < LPDU_MAX_FRAME_SIZE → Outcome p q
  | goes : q.Valid → q.state ≠ p.state → frameScanner.scan q.unread = frameScanner.scan p.unread →
      q.measure < p.measure → Outcome p q
  | completes (f : Frame) (rest : List UInt8) : q.state ≠ p.state → Ready q f rest →
      ScanStep p.unread rest [f] → Outcome p q

/-- Giving a frame up is the silent step of the scanner. -/
theorem Outcome.of_failFrame {p q : LinkLayerParser} (hq : q.buffer = p.buffer)
    (ho : p.buffer.Ordered) (hcap : p.buffer.M_SIZE = LPDU_MAX_FRAME_SIZE)
    (hne : p.state ≠ .findSync) (hnc : p.state ≠ .complete)
    (hstep : ScanStep p.unread (p.unread.drop 1) []) :
    Outcome p (q.failFrame.setState .findSync) := by
  have hlen : p.unread.length = p.buffer.numBytesRead := ShiftableBuffer.length_readBuffer ho
  have hlt := hstep.shrinks
  rw [List.length_drop] at hlt
  have hunread : (q.failFrame.setState .findSync).unread =
      p.unread.drop 1 := by
    simp only [unread, failFrame, hq]
    exact ShiftableBuffer.readBuffer_advanceRead _ _
  have hbuffer : (q.failFrame.setState .findSync).buffer =
      p.buffer.advanceRead 1 := by
    rw [setState_buffer, failFrame, hq]
  refine .goes ⟨?_, ?_, trivial⟩ hne.symm ?_ ?_
  · rw [hbuffer]
    exact ShiftableBuffer.ordered_advanceRead ho (by omega)
  · rw [hbuffer]
    exact hcap
  · rw [hunread, hstep.scan_eq]
  · rw [measure, measure, hunread, List.length_drop, setState_state]
    cases hs : p.state with
    | findSync => exact absurd hs hne
    | complete => exact absurd hs hnc
    | readHeader =>
      simp only [State.rank]
      omega
    | readBody =>
      simp only [State.rank]
      omega

theorem stepped_findSync {p : LinkLayerParser} (hp : p.Valid) (hs : p.state = .findSync) :
    Outcome p p.stepped := by
  have hlen : p.unread.length = p.buffer.numBytesRead :=
    ShiftableBuffer.length_readBuffer hp.ordered
  have hstep : p.parseOneStep = p.parseSync := by
    rw [parseOneStep, hs]
  rw [stepped, hstep, parseSync]
  by_cases h10 : 10 ≤ p.buffer.numBytesRead
  · obtain ⟨hord, hsize, hle, hscan, hfound⟩ := p.buffer.sync_spec hp.ordered
    rw [if_pos h10]
    cases hf : p.buffer.sync.2
    · rw [hf, if_neg (by simp)] at hfound
      refine .waits ⟨hord, hsize.trans hp.capacity, ?_⟩ ?_ hscan ?_ ?_
      · simp [Knows, hf]
      · simp [hf, hs]
      · exact scan_of_length_lt_ten (Nat.lt_of_le_of_lt hfound (by decide))
      · exact Nat.lt_of_le_of_lt hfound (by decide)
    · rw [hf, if_pos rfl] at hfound
      refine .goes ⟨hord, hsize.trans hp.capacity, ?_⟩ ?_ hscan ?_
      · simp only [Knows, hf, if_true]
        exact hfound
      · simp [hf, hs]
      · have hle' : (ShiftableBuffer.readBuffer p.buffer.sync.1).length ≤ p.unread.length := hle
        simp only [measure, hf, if_true, hs, setState_state, State.rank, unread_setState]
        exact Nat.add_lt_add_of_le_of_lt (Nat.mul_le_mul_left 4 hle') (by decide)
  · rw [if_neg h10]
    refine .waits ⟨hp.ordered, hp.capacity, trivial⟩ hs.symm rfl ?_ ?_
    · exact scan_of_length_lt_ten (show p.unread.length < 10 by omega)
    · exact show p.unread.length < LPDU_MAX_FRAME_SIZE by
        simp only [LPDU_MAX_FRAME_SIZE]
        omega

theorem stepped_readHeader {p : LinkLayerParser} (hp : p.Valid) (hs : p.state = .readHeader) :
    Outcome p p.stepped := by
  have hlen : p.unread.length = p.buffer.numBytesRead :=
    ShiftableBuffer.length_readBuffer hp.ordered
  have hstep : p.parseOneStep = p.parseHeader := by
    rw [parseOneStep, hs]
  obtain ⟨h1, hsync⟩ : 1 < p.unread.length ∧ Synced p.unread := by
    have := hp.knows
    rwa [Knows, hs] at this
  rw [stepped, hstep, parseHeader]
  by_cases h10 : 10 ≤ p.buffer.numBytesRead
  · obtain ⟨hgood, hbuffer, hheader, hsize⟩ := p.readHeader_spec
    rw [if_pos h10]
    cases hg : goodHeader p.unread
    · rw [hg] at hgood
      simp only [hgood, Bool.false_eq_true, if_false]
      exact .of_failFrame hbuffer hp.ordered hp.capacity (by simp [hs]) (by simp [hs])
        (.badHeader (by omega) hsync hg)
    · rw [hg] at hgood
      simp only [hgood, if_true]
      have hunread : (p.readHeader.1.setState .readBody).unread = p.unread := by
        rw [unread_setState, unread, hbuffer, unread]
      refine .goes ⟨?_, ?_, ?_⟩ (by simp [hs]) (by rw [hunread]) ?_
      · rw [setState_buffer, hbuffer]
        exact hp.ordered
      · rw [setState_buffer, hbuffer]
        exact hp.capacity
      · rw [Knows, hunread]
        exact ⟨by omega, hsync, hg, hheader, hsize hg⟩
      · rw [measure, measure, hunread, hs, setState_state]
        exact Nat.add_lt_add_left (by decide) _
  · have hnone : scanNext p.unread = none := by
      rw [scanNext, if_neg (by omega), if_neg (not_not.mpr hsync), if_pos (by omega)]
    rw [if_neg h10]
    refine .waits ⟨hp.ordered, hp.capacity, ⟨h1, hsync⟩⟩ hs.symm rfl ?_ ?_
    · exact congrArg Prod.snd (Scanner.scan_of_next_none (S := frameScanner) hnone)
    · exact show p.unread.length < LPDU_MAX_FRAME_SIZE by
        simp only [LPDU_MAX_FRAME_SIZE]
        omega

theorem validateBody_spec {p : LinkLayerParser} (hh : p.header = .read p.unread) :
    p.validateBody.2 = goodBody p.unread ∧ p.validateBody.1.buffer = p.buffer ∧
      (goodBody p.unread = true → p.validateBody.1 = p) := by
  have hbody : p.header.length.toNat - LPDU_MIN_LENGTH = bodyLength p.unread := by
    rw [hh, bodyLength]
  unfold validateBody goodBody
  rw [hbody]
  cases hv : LinkFrame.validateBodyCRC (p.unread.drop 10) (bodyLength p.unread) <;>
    simp [unread] at hv ⊢ <;> simp [hv]

theorem stepped_readBody {p : LinkLayerParser} (hp : p.Valid) (hs : p.state = .readBody) :
    Outcome p p.stepped := by
  have hlen : p.unread.length = p.buffer.numBytesRead :=
    ShiftableBuffer.length_readBuffer hp.ordered
  have hstep : p.parseOneStep = p.parseBody := by
    rw [parseOneStep, hs]
  obtain ⟨h10, hsync, hgood, hheader, hsize⟩ : 10 ≤ p.unread.length ∧ Synced p.unread ∧
      goodHeader p.unread = true ∧ p.header = .read p.unread ∧
      p.frameSize = Link.frameSize p.unread := by
    have := hp.knows
    rwa [Knows, hs] at this
  rw [stepped, hstep, parseBody]
  by_cases hle : p.buffer.numBytesRead < p.frameSize
  · have hnone : scanNext p.unread = none := by
      rw [scanNext, if_neg (by omega), if_neg (not_not.mpr hsync), if_neg (by omega),
        if_neg (not_not.mpr hgood), if_pos (by omega)]
    have hmax := frameSize_le p.unread
    rw [if_pos hle]
    refine .waits ⟨hp.ordered, hp.capacity, ⟨h10, hsync, hgood, hheader, hsize⟩⟩ hs.symm rfl ?_ ?_
    · exact congrArg Prod.snd (Scanner.scan_of_next_none (S := frameScanner) hnone)
    · exact show p.unread.length < LPDU_MAX_FRAME_SIZE by omega
  · obtain ⟨hvalid, hbuffer, hsame⟩ := validateBody_spec hheader
    rw [if_neg hle]
    cases hb : goodBody p.unread
    · rw [hb] at hvalid
      simp only [hvalid, Bool.false_eq_true, if_false]
      exact .of_failFrame hbuffer hp.ordered hp.capacity (by simp [hs]) (by simp [hs])
        (.badBody h10 hsync hgood (by omega) hb)
    · rw [hb] at hvalid
      simp only [hvalid, if_true, hsame hb]
      exact .completes _ _ (by simp [hs])
        (ready_transferUserData hp.ordered hp.capacity hheader hsize (by omega))
        (.frame h10 hsync hgood (by omega) hb)

/-- **One step of the machine follows the scanner.** -/
theorem stepped_outcome {p : LinkLayerParser} (hp : p.Valid) : Outcome p p.stepped := by
  cases hs : p.state with
  | findSync => exact stepped_findSync hp hs
  | readHeader => exact stepped_readHeader hp hs
  | readBody => exact stepped_readBody hp hs
  | complete =>
    have := hp.knows
    rw [Knows, hs] at this
    exact this.elim

/-! ## The loops -/

theorem parseUntilComplete_succ (fuel : Nat) (p : LinkLayerParser) :
    parseUntilComplete (fuel + 1) p =
      if p.stepped.state = p.state then p.stepped else parseUntilComplete fuel p.stepped := rfl

theorem parseUntilComplete_of_complete (fuel : Nat) {p : LinkLayerParser}
    (h : p.state = .complete) : parseUntilComplete fuel p = p := by
  have hstep : p.stepped = p := by
    rw [stepped, parseOneStep, h]
    exact congrArg p.setState h.symm
  cases fuel with
  | zero => rfl
  | succ fuel => rw [parseUntilComplete_succ, hstep, if_pos rfl]

/-- The parser waits for more input: nothing productive is left in what it holds. -/
structure Waiting (p : LinkLayerParser) : Prop where
  valid : p.Valid
  silent : (frameScanner.scan p.unread).2 = []
  space : p.unread.length < LPDU_MAX_FRAME_SIZE

theorem length_unread_le_of_measure_lt {p q : LinkLayerParser} (hq : q.Valid)
    (h : q.measure < p.measure) : q.unread.length ≤ p.unread.length := by
  have hnc : q.state ≠ .complete := fun hc => by
    have := hq.knows
    rwa [Knows, hc] at this
  rw [measure, measure] at h
  cases hs : q.state <;> cases hs' : p.state <;> simp only [hs, hs', State.rank] at h hnc <;>
    omega

/-- **The stepping loop has enough fuel**, and it ends waiting or with the next frame of the
scanner complete. -/
theorem parseUntilComplete_spec (fuel : Nat) {p : LinkLayerParser} (hp : p.Valid)
    (hf : p.measure < fuel) :
    ((parseUntilComplete fuel p).Waiting ∧
      frameScanner.scan (parseUntilComplete fuel p).unread = frameScanner.scan p.unread) ∨
    ∃ f rest, Ready (parseUntilComplete fuel p) f rest ∧ rest.length < p.unread.length ∧
      frameScanner.scan p.unread =
        ((frameScanner.scan rest).1, f :: (frameScanner.scan rest).2) := by
  induction fuel generalizing p with
  | zero => exact absurd hf (Nat.not_lt_zero _)
  | succ fuel ih =>
    rw [parseUntilComplete_succ]
    cases stepped_outcome hp with
    | waits hq hs hscan hsilent hspace =>
      rw [if_pos hs]
      exact .inl ⟨⟨hq, hsilent, hspace⟩, hscan⟩
    | goes hq hs hscan hm =>
      rw [if_neg hs]
      have hle := length_unread_le_of_measure_lt hq hm
      rcases ih hq (by omega) with ⟨hw, hscan'⟩ | ⟨f, rest, hready, hlt, hscan'⟩
      · exact .inl ⟨hw, hscan'.trans hscan⟩
      · exact .inr ⟨f, rest, hready, by omega, hscan ▸ hscan'⟩
    | completes f rest hs hready hstep =>
      rw [if_neg hs, parseUntilComplete_of_complete fuel hready.complete]
      exact .inr ⟨f, rest, hready, hstep.shrinks, hstep.scan_frame⟩

/-- Pushing a frame leaves the bytes behind it. -/
theorem pushFrame_spec {p : LinkLayerParser} {f : Frame} {rest : List UInt8}
    (h : Ready p f rest) :
    p.countFrame.pushFrame.2 = f ∧
      (p.countFrame.pushFrame.1.setState .findSync).unread = rest ∧
      (p.countFrame.pushFrame.1.setState .findSync).Valid := by
  refine ⟨h.frame_eq, ?_, ?_, h.capacity, trivial⟩
  · exact (ShiftableBuffer.readBuffer_advanceRead _ _).trans h.rest_eq
  · exact ShiftableBuffer.ordered_advanceRead h.ordered h.size_le

theorem pushFrames_succ (fuel : Nat) (p : LinkLayerParser) :
    pushFrames (fuel + 1) p =
      if (parseUntilComplete (4 * p.buffer.numBytesRead + 4) p).state = .complete then
        ((pushFrames fuel ((parseUntilComplete (4 * p.buffer.numBytesRead + 4)
            p).countFrame.pushFrame.1.setState .findSync)).1,
          (parseUntilComplete (4 * p.buffer.numBytesRead + 4) p).countFrame.pushFrame.2 ::
            (pushFrames fuel ((parseUntilComplete (4 * p.buffer.numBytesRead + 4)
              p).countFrame.pushFrame.1.setState .findSync)).2)
      else (parseUntilComplete (4 * p.buffer.numBytesRead + 4) p, []) := rfl

/-- **The pushing loop delivers the frames of the scanner** and ends waiting. -/
theorem pushFrames_spec (fuel : Nat) {p : LinkLayerParser} (hp : p.Valid)
    (hf : p.unread.length < fuel) :
    (pushFrames fuel p).1.Waiting ∧ (pushFrames fuel p).2 = (frameScanner.scan p.unread).2 ∧
      frameScanner.scan (pushFrames fuel p).1.unread = ((frameScanner.scan p.unread).1, []) := by
  induction fuel generalizing p with
  | zero => exact absurd hf (Nat.not_lt_zero _)
  | succ fuel ih =>
    have hlen : p.unread.length = p.buffer.numBytesRead :=
      ShiftableBuffer.length_readBuffer hp.ordered
    have hfuel : p.measure < 4 * p.buffer.numBytesRead + 4 := by
      rw [measure, hlen]
      cases p.state <;> simp only [State.rank] <;> omega
    rw [pushFrames_succ]
    rcases parseUntilComplete_spec _ hp hfuel with ⟨hw, hscan⟩ | ⟨f, rest, hready, hlt, hscan⟩
    · have hstate : (parseUntilComplete (4 * p.buffer.numBytesRead + 4) p).state ≠ .complete :=
        fun hc => by
          have := hw.valid.knows
          rwa [Knows, hc] at this
      have hout := hw.silent
      rw [hscan] at hout
      rw [if_neg hstate, hscan, hout]
      exact ⟨hw, rfl, Prod.ext rfl hout⟩
    · obtain ⟨hframe, hrest, hvalid⟩ := pushFrame_spec hready
      obtain ⟨hwait, hout, hleft⟩ := ih hvalid (by rw [hrest]; omega)
      rw [if_pos hready.complete, hscan, hframe]
      rw [hrest] at hout hleft
      exact ⟨hwait, congrArg (f :: ·) hout, hleft⟩

/-! ## The parser as a receiver -/

/-- The parser, handed one chunk per `onRead`. -/
def receiver : Receiver LinkLayerParser UInt8 Frame where
  space := writeBuff
  receive := receive

/-- The state of the parser between two reads: it waits, and its buffer is shifted. -/
structure Idle (p : LinkLayerParser) : Prop where
  waiting : p.Waiting
  shifted : p.buffer.readPos = 0

/-- **The parser can never get stuck with a full buffer.** -/
theorem Idle.writeBuff_pos {p : LinkLayerParser} (h : p.Idle) : 1 ≤ p.writeBuff := by
  have hlen : p.unread.length = p.buffer.numBytesRead :=
    ShiftableBuffer.length_readBuffer h.waiting.valid.ordered
  have hspace := h.waiting.space
  have hcap := h.waiting.valid.capacity
  have hshift := h.shifted
  rw [writeBuff, ShiftableBuffer.numWriteBytes, hcap]
  rw [hlen, ShiftableBuffer.numBytesRead, hshift] at hspace
  omega

theorem idle_initial (rxBuffer : Vector UInt8 LPDU_MAX_FRAME_SIZE)
    (pStatistics : Option LinkChannelStatistics) : (initial rxBuffer pStatistics).Idle := by
  have hunread : (initial rxBuffer pStatistics).unread = [] := rfl
  refine ⟨⟨⟨⟨Nat.le_refl _, Nat.zero_le _⟩, ?_, trivial⟩, ?_, ?_⟩, rfl⟩
  · exact rxBuffer.length_toList
  · exact scan_of_length_lt_ten (by rw [hunread]; decide)
  · rw [hunread]
    decide

/-- A new parser offers its whole memory. -/
theorem writeBuff_initial (rxBuffer : Vector UInt8 LPDU_MAX_FRAME_SIZE)
    (pStatistics : Option LinkChannelStatistics) :
    (initial rxBuffer pStatistics).writeBuff = LPDU_MAX_FRAME_SIZE :=
  rxBuffer.length_toList

/-- What is known about the bytes in front stays true when bytes are appended. -/
theorem Knows.append {p q : LinkLayerParser} {chunk : List UInt8} (h : p.Knows)
    (hu : q.unread = p.unread ++ chunk) (hs : q.state = p.state) (hh : q.header = p.header)
    (hz : q.frameSize = p.frameSize) : q.Knows := by
  have hlen : p.unread.length ≤ (p.unread ++ chunk).length := by
    rw [List.length_append]
    omega
  unfold Knows at *
  rw [hs]
  cases hstate : p.state with
  | findSync => trivial
  | readHeader =>
    rw [hstate] at h
    simp only at h ⊢
    rw [hu]
    exact ⟨by omega, (synced_append chunk h.1).mpr h.2⟩
  | readBody =>
    rw [hstate] at h
    obtain ⟨h10, hsync, hgood, hheader, hsize⟩ := h
    simp only
    rw [hu, hh, hz, frameSize_append chunk h10, goodHeader_append chunk h10,
      LinkFrame.read_append chunk h10]
    exact ⟨by omega, (synced_append chunk (by omega)).mpr hsync, hgood, hheader, hsize⟩
  | complete =>
    rw [hstate] at h
    exact h.elim

/-- The parser with a chunk stored and counted as received. -/
def stored (p : LinkLayerParser) (chunk : List UInt8) : LinkLayerParser :=
  { p with buffer := (p.buffer.store chunk).advanceWrite chunk.length }

theorem valid_stored {p : LinkLayerParser} (hp : p.Valid) {chunk : List UInt8}
    (hc : chunk.length ≤ p.writeBuff) : (p.stored chunk).Valid := by
  have hw := hp.ordered.write_le
  refine ⟨ShiftableBuffer.ordered_store hp.ordered hc, ?_, ?_⟩
  · rw [← hp.capacity]
    simp only [writeBuff, ShiftableBuffer.numWriteBytes, ShiftableBuffer.M_SIZE] at hc hw
    simp only [stored, ShiftableBuffer.M_SIZE, ShiftableBuffer.store, ShiftableBuffer.advanceWrite]
    exact length_splice (by omega)
  · exact hp.knows.append (ShiftableBuffer.readBuffer_store hp.ordered) rfl rfl rfl

/-- Shifting the buffer keeps what the parser waits for. -/
theorem idle_shift {p : LinkLayerParser} (hp : p.Waiting) :
    Idle { p with buffer := p.buffer.shift } := by
  have hunread : ({ p with buffer := p.buffer.shift } : LinkLayerParser).unread = p.unread :=
    ShiftableBuffer.readBuffer_shift hp.valid.ordered
  have hlen := ShiftableBuffer.length_readBuffer hp.valid.ordered
  have hw := hp.valid.ordered.write_le
  refine ⟨⟨⟨ShiftableBuffer.ordered_shift hp.valid.ordered, ?_, ?_⟩, ?_, ?_⟩, rfl⟩
  · rw [← hp.valid.capacity]
    simp only [ShiftableBuffer.numBytesRead, ShiftableBuffer.M_SIZE] at hlen hw
    simp only [ShiftableBuffer.M_SIZE, ShiftableBuffer.shift, memmove]
    exact length_splice (by
      simp only [ShiftableBuffer.readBuffer, ShiftableBuffer.numBytesRead] at *
      omega)
  · exact hp.valid.knows.append (hunread.trans (List.append_nil _).symm) rfl rfl rfl
  · rw [hunread]
    exact hp.silent
  · rw [hunread]
    exact hp.space

theorem receive_eq (p : LinkLayerParser) (chunk : List UInt8) :
    p.receive chunk =
      ({ (pushFrames ((p.stored chunk).buffer.numBytesRead + 1) (p.stored chunk)).1 with
        buffer := (pushFrames ((p.stored chunk).buffer.numBytesRead + 1)
          (p.stored chunk)).1.buffer.shift },
        (pushFrames ((p.stored chunk).buffer.numBytesRead + 1) (p.stored chunk)).2) := rfl

/-- **The parser follows the scanner of its pending bytes.** -/
theorem follows_frameScanner : receiver.Follows frameScanner unread Idle := by
  have key : ∀ {p : LinkLayerParser} {chunk : List UInt8}, p.Idle → chunk.length ≤ p.writeBuff →
      (p.receive chunk).1.Idle ∧
        (p.receive chunk).2 = (frameScanner.scan (p.unread ++ chunk)).2 ∧
        frameScanner.scan (p.receive chunk).1.unread =
          ((frameScanner.scan (p.unread ++ chunk)).1, []) := by
    intro p chunk hp hc
    have hv := valid_stored hp.waiting.valid hc
    have hlen : (p.stored chunk).unread.length = (p.stored chunk).buffer.numBytesRead :=
      ShiftableBuffer.length_readBuffer hv.ordered
    have hunread : (p.stored chunk).unread = p.unread ++ chunk :=
      ShiftableBuffer.readBuffer_store hp.waiting.valid.ordered
    obtain ⟨hwait, hout, hleft⟩ :=
      pushFrames_spec ((p.stored chunk).buffer.numBytesRead + 1) hv (by omega)
    rw [hunread] at hout hleft
    rw [receive_eq]
    refine ⟨idle_shift hwait, hout, ?_⟩
    rw [← hleft]
    exact congrArg _ (ShiftableBuffer.readBuffer_shift hwait.valid.ordered)
  exact ⟨fun hs hc => (key hs hc).1, fun hs hc => (key hs hc).2.1, fun hs hc => (key hs hc).2.2⟩

end LinkLayerParser

open LinkLayerParser in
/-- **Chunking invariance.**  However a stream is split into chunks that fit the write space offered
when they arrive, the parser delivers the frames it delivers when the stream arrives byte by byte
(which always fits), and after every read the write space is not empty. -/
theorem linkLayerParser_chunking (rxBuffer : Vector UInt8 LPDU_MAX_FRAME_SIZE)
    (pStatistics : Option LinkChannelStatistics) (chunks : List (List UInt8))
    (hfits : receiver.Fits (initial rxBuffer pStatistics) chunks) :
    receiver.Fits (initial rxBuffer pStatistics) (chunks.flatten.map fun b => [b]) ∧
      (receiver.run (initial rxBuffer pStatistics) chunks).2 =
        (receiver.run (initial rxBuffer pStatistics) (chunks.flatten.map fun b => [b])).2 ∧
      ∀ read : List (List UInt8), read <+: chunks →
        1 ≤ (receiver.run (initial rxBuffer pStatistics) read).1.writeBuff := by
  have hidle := idle_initial rxBuffer pStatistics
  have hpending : frameScanner.scan (initial rxBuffer pStatistics).unread = ([], []) :=
    Scanner.scan_of_next_none rfl
  have hbytes := follows_frameScanner.fits_singletons (fun p hp => hp.writeBuff_pos) hidle
    chunks.flatten
  refine ⟨hbytes, ?_, fun read hread => ?_⟩
  · rw [follows_frameScanner.run_out hidle hpending hfits,
      follows_frameScanner.run_out hidle hpending hbytes]
    have hflat : (chunks.flatten.map fun b => [b]).flatten = chunks.flatten := by
      rw [← List.flatMap_def, List.flatMap_singleton']
    rw [hflat]
  · obtain ⟨later, rfl⟩ := hread
    exact (follows_frameScanner.run_inv hidle (hfits.of_append)).writeBuff_pos

open LinkLayerParser in
/-- A header with a wrong checksum, a false start, and a frame whose sync sequence is split: the
header is counted and the frame delivered. -/
theorem linkLayerParser_chunking_example :
    let chunks : List (List UInt8) :=
      [[0x05, 0x64, 0x05, 0xC0, 0x01, 0x00, 0x00, 0x04, 0xE9, 0x22, 0x05, 0x05],
        [0x64, 0x05, 0xC0, 0x01, 0x00, 0x00, 0x04, 0xE9, 0x21]]
    let p := initial (Vector.replicate LPDU_MAX_FRAME_SIZE 0) (some ⟨0, 0, 0⟩)
    (receiver.Fits p (chunks.flatten.map fun b => [b]) ∧
      (receiver.run p chunks).2 = (receiver.run p (chunks.flatten.map fun b => [b])).2 ∧
      ∀ read : List (List UInt8), read <+: chunks → 1 ≤ (receiver.run p read).1.writeBuff) ∧
    (receiver.run p chunks).2 = [(⟨.priResetLinkStates, true, false, false, 1, 1024⟩, [])] ∧
    (receiver.run p chunks).1.pStatistics = some ⟨1, 1, 0⟩ := by
  intro chunks p
  have hfits : receiver.Fits p chunks := by
    refine ⟨⟨by decide, ?_⟩, ⟨by decide, ?_⟩, trivial⟩
    · decide +kernel
    · decide +kernel
  refine ⟨linkLayerParser_chunking _ _ chunks hfits, ?_, ?_⟩
  · decide +kernel
  · decide +kernel

end Link
end Dnp3
