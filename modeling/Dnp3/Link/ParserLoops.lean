import Mathlib.Logic.Relation
import Dnp3.Link.ParserScan

/-!
# The loops of the link layer parser come to an end

`OnRead` pushes frames as long as `ParseUntilComplete` returns with one complete, and
`ParseUntilComplete` steps as long as the state changes.  Neither loop counts anything, and giving a
frame up moves the state back to the start.  What decreases is the number of the unread bytes, and
while that stays the same, the number of states that are still ahead (`Turn.decreases`).

The two loops are stated as relations without fuel, so that a derivation is a run that has come to
its end.  Each turn of a run is classified (`Progress`): the sync bytes are found, a header is
accepted, a body is accepted, a frame is given up, a frame is pushed.  A turn that uses up bytes
without pushing a frame uses up none at which a valid frame starts.
-/

namespace Dnp3
namespace Link

open Library

/-- The bytes hold a valid frame at an offset. -/
def FrameAt (b : List UInt8) (offset : Nat) (f : Frame) : Prop :=
  ∃ rest, ScanStep (b.drop offset) rest [f]

theorem FrameAt.synced {b : List UInt8} {k : Nat} {f : Frame} (h : FrameAt b k f) :
    Synced (b.drop k) := by
  obtain ⟨rest, hstep⟩ := h
  cases hstep with
  | frame _ hs => exact hs

theorem frameAt_drop (b : List UInt8) (n k : Nat) (f : Frame) :
    FrameAt (b.drop n) k f ↔ FrameAt b (n + k) f := by
  rw [FrameAt, FrameAt, List.drop_drop]

/-- Where the scanner takes a silent step no frame starts. -/
theorem ScanStep.not_frameAt {b r : List UInt8} (h : ScanStep b r []) (f : Frame) :
    ¬ FrameAt b 0 f := by
  rintro ⟨rest, hframe⟩
  have hsame := h.scanNext_eq.symm.trans hframe.scanNext_eq
  cases hsame

namespace ShiftableBuffer

/-- Looking for the sync bytes skips bytes at which they do not stand. -/
theorem sync_skips (b : ShiftableBuffer) :
    ∃ n, b.sync.1 = b.advanceRead n ∧ ∀ k < n, ¬ Synced (b.readBuffer.drop k) := by
  induction b using sync.induct with
  | case1 b h1 hs =>
    rw [sync, if_pos h1, if_pos hs]
    exact ⟨0, rfl, fun k hk => absurd hk (Nat.not_lt_zero k)⟩
  | case2 b h1 hs ih =>
    rw [sync, if_pos h1, if_neg hs]
    obtain ⟨n, heq, hskips⟩ := ih
    refine ⟨1 + n, ?_, fun k hk => ?_⟩
    · rw [heq]
      simp only [advanceRead, Nat.add_assoc]
    · cases k with
      | zero => exact hs
      | succ k =>
        have hnext := hskips k (by omega)
        rwa [readBuffer_advanceRead, List.drop_drop, Nat.add_comm] at hnext
  | case3 b h1 =>
    rw [sync, if_neg h1]
    exact ⟨0, rfl, fun k hk => absurd hk (Nat.not_lt_zero k)⟩

end ShiftableBuffer

namespace LinkLayerParser

/-! ## The loops -/

/-- `ParseUntilComplete` returns: it steps as long as the state changes. -/
inductive ParseUntilComplete : LinkLayerParser → LinkLayerParser → Prop where
  | done {p : LinkLayerParser} : p.stepped.state = p.state → ParseUntilComplete p p.stepped
  | step {p q : LinkLayerParser} : p.stepped.state ≠ p.state → ParseUntilComplete p.stepped q →
      ParseUntilComplete p q

/-- The parser after its complete frame is pushed. -/
def pushed (p : LinkLayerParser) : LinkLayerParser := p.countFrame.pushFrame.1.setState .findSync

/-- The loop of `OnRead` comes to its end with the given frames pushed. -/
inductive PushFrames : LinkLayerParser → LinkLayerParser → List Frame → Prop where
  | done {p q : LinkLayerParser} : ParseUntilComplete p q → q.state ≠ .complete →
      PushFrames p q []
  | push {p q r : LinkLayerParser} {frames : List Frame} : ParseUntilComplete p q →
      q.state = .complete → PushFrames q.pushed r frames →
      PushFrames p r (q.countFrame.pushFrame.2 :: frames)

/-- A turn of one of the two loops: a step that changes the state, or a frame that is pushed. -/
inductive Turn : LinkLayerParser → LinkLayerParser → Prop where
  | step {p : LinkLayerParser} : p.stepped.state ≠ p.state → Turn p p.stepped
  | push {p : LinkLayerParser} : p.state = .complete → Turn p p.pushed

/-- What a turn does to the state and to the unread bytes. -/
inductive Progress (p q : LinkLayerParser) : Prop where
  | found (skipped : Nat) : p.state = .findSync → q.state = .readHeader →
      q.unread = p.unread.drop skipped →
      (∀ k < skipped, ∀ f, ¬ FrameAt p.unread k f) → Progress p q
  | accepted : p.state = .readHeader → q.state = .readBody → q.unread = p.unread → Progress p q
  | completed (f : Frame) : p.state = .readBody → q.state = .complete → FrameAt p.unread 0 f →
      q.countFrame.pushFrame.2 = f → q.unread.length = p.unread.length →
      q.unread.drop q.frameSize = p.unread.drop q.frameSize → Progress p q
  | failed : p.state = .readHeader ∨ p.state = .readBody → q.state = .findSync →
      0 < p.unread.length → q.unread = p.unread.drop 1 → (∀ f, ¬ FrameAt p.unread 0 f) →
      Progress p q
  | pushed : p.state = .complete → q.state = .findSync → 10 ≤ p.frameSize →
      p.frameSize ≤ p.unread.length → q.unread = p.unread.drop p.frameSize → Progress p q

/-- The unread bytes first, then the states that are still ahead. -/
def ahead (p : LinkLayerParser) : Nat × Nat := (p.unread.length, p.state.rank)

theorem Progress.decreases {p q : LinkLayerParser} (h : Progress p q) :
    Prod.Lex (· < ·) (· < ·) q.ahead p.ahead := by
  rw [ahead, ahead, Prod.lex_def]
  cases h with
  | found n hp hq hu _ =>
    rw [hp, hq, hu, List.length_drop]
    rcases Nat.lt_or_ge (p.unread.length - n) p.unread.length with hlt | hge
    · exact .inl hlt
    · exact .inr ⟨by simp only; omega, (by decide : State.readHeader.rank < State.findSync.rank)⟩
  | accepted hp hq hu =>
    rw [hp, hq, hu]
    exact .inr ⟨rfl, (by decide : State.readBody.rank < State.readHeader.rank)⟩
  | completed f hp hq _ _ hu _ =>
    rw [hp, hq, hu]
    exact .inr ⟨rfl, (by decide : State.complete.rank < State.readBody.rank)⟩
  | failed _ _ hpos hu _ =>
    rw [hu, List.length_drop]
    exact .inl (by simp only; omega)
  | pushed _ _ hten hle hu =>
    rw [hu, List.length_drop]
    exact .inl (by simp only; omega)

/-- No valid frame is skipped: it stays where it is unless it is the one that is completed. -/
theorem Progress.keeps_frame {p q : LinkLayerParser} (h : Progress p q)
    (hp : p.state ≠ .complete) (hq : q.state ≠ .complete) {k : Nat} {f : Frame}
    (hf : FrameAt p.unread k f) :
    ∃ skipped ≤ k, q.unread = p.unread.drop skipped ∧ FrameAt q.unread (k - skipped) f := by
  have hmoved : ∀ n ≤ k, q.unread = p.unread.drop n → FrameAt q.unread (k - n) f := by
    intro n hn hu
    rwa [hu, frameAt_drop, Nat.add_sub_cancel' hn]
  cases h with
  | found n _ _ hu hnone =>
    have hn : n ≤ k := Nat.le_of_not_lt fun hlt => hnone k hlt f hf
    exact ⟨n, hn, hu, hmoved n hn hu⟩
  | accepted _ _ hu => exact ⟨0, Nat.zero_le k, hu, hmoved 0 (Nat.zero_le k) hu⟩
  | completed _ _ hc => exact absurd hc hq
  | failed _ _ _ hu hnone =>
    have hk : 1 ≤ k := Nat.one_le_iff_ne_zero.mpr fun h0 => hnone f (h0 ▸ hf)
    exact ⟨1, hk, hu, hmoved 1 hk hu⟩
  | pushed hc => exact absurd hc hp

/-! ## The steps -/

theorem progress_of_failFrame {p q : LinkLayerParser} (hq : q.buffer = p.buffer)
    (hs : p.state = .readHeader ∨ p.state = .readBody)
    (hstep : ScanStep p.unread (p.unread.drop 1) []) :
    Progress p (q.failFrame.setState .findSync) := by
  have hunread : (q.failFrame.setState .findSync).unread = p.unread.drop 1 := by
    simp only [unread, failFrame, hq]
    exact ShiftableBuffer.readBuffer_advanceRead _ _
  exact .failed hs rfl (Nat.lt_of_le_of_lt (Nat.zero_le _) hstep.shrinks) hunread
    hstep.not_frameAt

theorem progress_findSync {p : LinkLayerParser} (hs : p.state = .findSync)
    (hne : p.stepped.state ≠ p.state) : Progress p p.stepped := by
  have hstep : p.parseOneStep = p.parseSync := by
    rw [parseOneStep, hs]
  rw [stepped, hstep, parseSync] at hne ⊢
  by_cases h10 : 10 ≤ p.buffer.numBytesRead
  · obtain ⟨n, hsync, hskips⟩ := p.buffer.sync_skips
    rw [if_pos h10] at hne ⊢
    cases hf : p.buffer.sync.2 with
    | false => exact absurd (by simp [hf, hs]) hne
    | true =>
      refine .found n hs (by simp [hf]) ?_ fun k hk f hframe => hskips k hk hframe.synced
      exact (congrArg ShiftableBuffer.readBuffer hsync).trans
        (ShiftableBuffer.readBuffer_advanceRead _ _)
  · rw [if_neg h10] at hne
    exact absurd hs.symm hne

theorem progress_readHeader {p : LinkLayerParser} (hp : p.Valid) (hs : p.state = .readHeader)
    (hne : p.stepped.state ≠ p.state) : Progress p p.stepped := by
  have hlen : p.unread.length = p.buffer.numBytesRead :=
    ShiftableBuffer.length_readBuffer hp.ordered
  have hstep : p.parseOneStep = p.parseHeader := by
    rw [parseOneStep, hs]
  obtain ⟨h1, hsync⟩ : 1 < p.unread.length ∧ Synced p.unread := by
    have := hp.knows
    rwa [Knows, hs] at this
  rw [stepped, hstep, parseHeader] at hne ⊢
  by_cases h10 : 10 ≤ p.buffer.numBytesRead
  · obtain ⟨hgood, hbuffer, hheader, hsize⟩ := p.readHeader_spec
    rw [if_pos h10]
    cases hg : goodHeader p.unread with
    | false =>
      rw [hg] at hgood
      simp only [hgood, Bool.false_eq_true, if_false]
      exact progress_of_failFrame hbuffer (.inl hs) (.badHeader (by omega) hsync hg)
    | true =>
      rw [hg] at hgood
      simp only [hgood, if_true]
      refine .accepted hs rfl ?_
      rw [unread_setState, unread, hbuffer, unread]
  · rw [if_neg h10] at hne
    exact absurd hs.symm hne

theorem progress_readBody {p : LinkLayerParser} (hp : p.Valid) (hs : p.state = .readBody)
    (hne : p.stepped.state ≠ p.state) : Progress p p.stepped := by
  have hlen : p.unread.length = p.buffer.numBytesRead :=
    ShiftableBuffer.length_readBuffer hp.ordered
  have hstep : p.parseOneStep = p.parseBody := by
    rw [parseOneStep, hs]
  obtain ⟨h10, hsync, hgood, hheader, hsize⟩ : 10 ≤ p.unread.length ∧ Synced p.unread ∧
      goodHeader p.unread = true ∧ p.header = .read p.unread ∧
      p.frameSize = Link.frameSize p.unread := by
    have := hp.knows
    rwa [Knows, hs] at this
  rw [stepped, hstep, parseBody] at hne ⊢
  by_cases hle : p.buffer.numBytesRead < p.frameSize
  · rw [if_pos hle] at hne
    exact absurd hs.symm hne
  · obtain ⟨hvalid, hbuffer, hsame⟩ := validateBody_spec hheader
    rw [if_neg hle]
    cases hb : goodBody p.unread with
    | false =>
      rw [hb] at hvalid
      simp only [hvalid, Bool.false_eq_true, if_false]
      exact progress_of_failFrame hbuffer (.inr hs) (.badBody h10 hsync hgood (by omega) hb)
    | true =>
      rw [hb] at hvalid
      simp only [hvalid, if_true, hsame hb]
      have hready := ready_transferUserData hp.ordered hp.capacity hheader hsize (by omega)
      have hframe := ScanStep.frame h10 hsync hgood (by omega) hb
      have hlen' := ShiftableBuffer.length_readBuffer hready.ordered
      refine .completed (frameOf p.unread) hs rfl ⟨_, hframe⟩ hready.frame_eq ?_ ?_
      · exact hlen'.trans hlen.symm
      · rw [hready.rest_eq, ← hsize]
        rfl

/-! ## The invariant of the loops -/

/-- Between two turns the parser is valid, or a complete frame waits to be pushed. -/
def Steady (p : LinkLayerParser) : Prop := p.Valid ∨ (∃ f rest, Ready p f rest) ∧ 10 ≤ p.frameSize

theorem Valid.not_complete {p : LinkLayerParser} (hp : p.Valid) : p.state ≠ .complete := by
  intro hc
  have := hp.knows
  rwa [Knows, hc] at this

theorem Valid.progress {p : LinkLayerParser} (hp : p.Valid) (hne : p.stepped.state ≠ p.state) :
    Progress p p.stepped := by
  cases hs : p.state with
  | findSync => exact progress_findSync hs hne
  | readHeader => exact progress_readHeader hp hs hne
  | readBody => exact progress_readBody hp hs hne
  | complete => exact absurd hs hp.not_complete

theorem stepped_of_complete {p : LinkLayerParser} (hc : p.state = .complete) : p.stepped = p := by
  rw [stepped, parseOneStep, hc]
  exact congrArg p.setState hc.symm

/-- A body that is complete has the size its header announces. -/
theorem stepped_frameSize {p : LinkLayerParser} (hp : p.Valid) (hs : p.state = .readBody) :
    10 ≤ p.stepped.frameSize := by
  obtain ⟨h10, hsync, hgood, hheader, hsize⟩ : 10 ≤ p.unread.length ∧ Synced p.unread ∧
      goodHeader p.unread = true ∧ p.header = .read p.unread ∧
      p.frameSize = Link.frameSize p.unread := by
    have := hp.knows
    rwa [Knows, hs] at this
  have hkept : p.stepped.frameSize = p.frameSize := by
    rw [stepped, parseOneStep, hs, setState_frameSize]
    simp only [parseBody, validateBody]
    split_ifs <;> rfl
  rw [hkept, hsize]
  exact ten_le_frameSize _

theorem Turn.steady {p q : LinkLayerParser} (h : Turn p q) (hp : p.Steady) :
    Progress p q ∧ q.Steady := by
  cases h with
  | step hne =>
    rcases hp with hvalid | ⟨⟨f, rest, hready⟩, _⟩
    · have hprogress := hvalid.progress hne
      refine ⟨hprogress, ?_⟩
      cases stepped_outcome hvalid with
      | waits _ hs => exact absurd hs hne
      | goes hq => exact .inl hq
      | completes f rest _ hready =>
        refine .inr ⟨⟨f, rest, hready⟩, stepped_frameSize hvalid ?_⟩
        have hc := hready.complete
        cases hprogress with
        | found _ _ hq => cases hq.symm.trans hc
        | accepted _ hq => cases hq.symm.trans hc
        | completed _ hs => exact hs
        | failed _ hq => cases hq.symm.trans hc
        | pushed _ hq => cases hq.symm.trans hc
    · rw [stepped_of_complete hready.complete] at hne
      exact absurd rfl hne
  | push hc =>
    rcases hp with hvalid | ⟨⟨f, rest, hready⟩, hten⟩
    · exact absurd hc hvalid.not_complete
    · obtain ⟨_, hunread, hvalid⟩ := pushFrame_spec hready
      have hlen := ShiftableBuffer.length_readBuffer hready.ordered
      refine ⟨.pushed hc rfl hten ?_ (hunread.trans hready.rest_eq.symm), .inl hvalid⟩
      exact Nat.le_trans hready.size_le (Nat.le_of_eq hlen.symm)

/-- The invariant holds throughout a run. -/
theorem steady_of_turns {p q : LinkLayerParser} (hp : p.Steady)
    (h : Relation.ReflTransGen Turn p q) : q.Steady := by
  induction h with
  | refl => exact hp
  | tail _ hturn ih => exact (hturn.steady ih).2

/-! ## The loops return -/

theorem parseUntilComplete_returns (fuel : Nat) {p : LinkLayerParser} (hp : p.Valid)
    (hf : p.measure < fuel) : ParseUntilComplete p (parseUntilComplete fuel p) := by
  induction fuel generalizing p with
  | zero => exact absurd hf (Nat.not_lt_zero _)
  | succ fuel ih =>
    rw [parseUntilComplete_succ]
    cases stepped_outcome hp with
    | waits _ hs =>
      rw [if_pos hs]
      exact .done hs
    | goes hq hs _ hm =>
      rw [if_neg hs]
      exact .step hs (ih hq (by omega))
    | completes f rest hs hready =>
      have hstop : p.stepped.stepped = p.stepped := stepped_of_complete hready.complete
      have hdone : ParseUntilComplete p.stepped p.stepped.stepped :=
        .done (congrArg LinkLayerParser.state hstop)
      rw [if_neg hs, parseUntilComplete_of_complete fuel hready.complete]
      rw [hstop] at hdone
      exact .step hs hdone

theorem measure_lt_fuel {p : LinkLayerParser} (hp : p.Valid) :
    p.measure < 4 * p.buffer.numBytesRead + 4 := by
  have hlen : p.unread.length = p.buffer.numBytesRead :=
    ShiftableBuffer.length_readBuffer hp.ordered
  rw [measure, hlen]
  cases p.state <;> simp only [State.rank] <;> omega

/-- **The stepping loop returns** whenever it is called. -/
theorem Steady.returns {p : LinkLayerParser} (hp : p.Steady) : ∃ q, ParseUntilComplete p q := by
  rcases hp with hvalid | ⟨⟨f, rest, hready⟩, _⟩
  · exact ⟨_, parseUntilComplete_returns _ hvalid (measure_lt_fuel hvalid)⟩
  · exact ⟨_, .done (congrArg LinkLayerParser.state (stepped_of_complete hready.complete))⟩

/-- **The pushing loop comes to its end.** -/
theorem pushFrames_returns (fuel : Nat) {p : LinkLayerParser} (hp : p.Valid)
    (hf : p.unread.length < fuel) : PushFrames p (pushFrames fuel p).1 (pushFrames fuel p).2 := by
  induction fuel generalizing p with
  | zero => exact absurd hf (Nat.not_lt_zero _)
  | succ fuel ih =>
    have hfuel := measure_lt_fuel hp
    have hreturns := parseUntilComplete_returns _ hp hfuel
    rw [pushFrames_succ]
    rcases parseUntilComplete_spec _ hp hfuel with ⟨hw, _⟩ | ⟨f, rest, hready, hlt, _⟩
    · rw [if_neg hw.valid.not_complete]
      exact .done hreturns hw.valid.not_complete
    · obtain ⟨_, hrest, hvalid⟩ := pushFrame_spec hready
      rw [if_pos hready.complete]
      have hless : (parseUntilComplete (4 * p.buffer.numBytesRead + 4) p).pushed.unread.length <
          fuel := by
        rw [pushed, hrest]
        omega
      exact .push hreturns hready.complete (ih hvalid hless)

/-! ## Every reachable parser -/

/-- The parsers that `Reset` and reads of any bytes that fit lead to. -/
inductive Reachable (rxBuffer : Vector UInt8 LPDU_MAX_FRAME_SIZE)
    (pStatistics : Option LinkChannelStatistics) : LinkLayerParser → Prop where
  | initial : Reachable rxBuffer pStatistics (initial rxBuffer pStatistics)
  | reset {p : LinkLayerParser} : Reachable rxBuffer pStatistics p →
      Reachable rxBuffer pStatistics p.reset
  | read {p : LinkLayerParser} {chunk : List UInt8} : Reachable rxBuffer pStatistics p →
      chunk.length ≤ p.writeBuff → Reachable rxBuffer pStatistics (p.receive chunk).1

theorem Idle.reset {p : LinkLayerParser} (hp : p.Idle) : p.reset.Idle := by
  have hunread : p.reset.unread = [] := rfl
  refine ⟨⟨⟨⟨Nat.le_refl _, Nat.zero_le _⟩, hp.waiting.valid.capacity, trivial⟩, ?_, ?_⟩, rfl⟩
  · exact scan_of_length_lt_ten (by rw [hunread]; decide)
  · rw [hunread]
    decide

theorem Reachable.idle {rxBuffer : Vector UInt8 LPDU_MAX_FRAME_SIZE}
    {pStatistics : Option LinkChannelStatistics} {p : LinkLayerParser}
    (h : Reachable rxBuffer pStatistics p) : p.Idle := by
  induction h with
  | initial => exact idle_initial rxBuffer pStatistics
  | reset _ ih => exact ih.reset
  | read _ hc ih => exact follows_frameScanner.keeps ih hc

/-- **Every read returns.**  From every reachable parser and for every chunk that fits, the loops of
`OnRead` come to their end; in every turn of them the stepping loop returns, the unread bytes and
the states that are ahead decrease, a frame that fails uses up one byte, and no valid frame is
skipped. -/
theorem onRead_returns {rxBuffer : Vector UInt8 LPDU_MAX_FRAME_SIZE}
    {pStatistics : Option LinkChannelStatistics} {p : LinkLayerParser}
    (hp : Reachable rxBuffer pStatistics p) {chunk : List UInt8}
    (hc : chunk.length ≤ p.writeBuff) :
    (∃ q frames, PushFrames (p.stored chunk) q frames ∧
      p.receive chunk = ({ q with buffer := q.buffer.shift }, frames)) ∧
    ∀ q, Relation.ReflTransGen Turn (p.stored chunk) q →
      (∃ r, ParseUntilComplete q r) ∧
      ∀ r, Turn q r → Progress q r ∧ Prod.Lex (· < ·) (· < ·) r.ahead q.ahead ∧
        (q.state ≠ .complete → r.state ≠ .complete → ∀ k f, FrameAt q.unread k f →
          ∃ skipped ≤ k, r.unread = q.unread.drop skipped ∧
            FrameAt r.unread (k - skipped) f) := by
  have hidle := hp.idle
  have hv := valid_stored hidle.waiting.valid hc
  have hlen : (p.stored chunk).unread.length = (p.stored chunk).buffer.numBytesRead :=
    ShiftableBuffer.length_readBuffer hv.ordered
  refine ⟨⟨_, _, pushFrames_returns _ hv (by omega), receive_eq p chunk⟩, fun q hq => ?_⟩
  have hsteady := steady_of_turns (.inl hv) hq
  refine ⟨hsteady.returns, fun r hturn => ?_⟩
  obtain ⟨hprogress, _⟩ := hturn.steady hsteady
  exact ⟨hprogress, hprogress.decreases, fun hqc hrc k f hf => hprogress.keeps_frame hqc hrc hf⟩

/-- Noise, a header with a wrong checksum, and a frame in one read: the header is counted and the
frame delivered. -/
theorem onRead_returns_example :
    let chunk : List UInt8 :=
      [0x00, 0x05, 0x64, 0x05, 0xC0, 0x01, 0x00, 0x00, 0x04, 0xE9, 0x22,
        0x05, 0x64, 0x05, 0xC0, 0x01, 0x00, 0x00, 0x04, 0xE9, 0x21]
    let p := initial (Vector.replicate LPDU_MAX_FRAME_SIZE 0) (some ⟨0, 0, 0⟩)
    ((∃ q frames, PushFrames (p.stored chunk) q frames ∧
      p.receive chunk = ({ q with buffer := q.buffer.shift }, frames)) ∧
    ∀ q, Relation.ReflTransGen Turn (p.stored chunk) q →
      (∃ r, ParseUntilComplete q r) ∧
      ∀ r, Turn q r → Progress q r ∧ Prod.Lex (· < ·) (· < ·) r.ahead q.ahead ∧
        (q.state ≠ .complete → r.state ≠ .complete → ∀ k f, FrameAt q.unread k f →
          ∃ skipped ≤ k, r.unread = q.unread.drop skipped ∧
            FrameAt r.unread (k - skipped) f)) ∧
    (p.receive chunk).2 = [(⟨.priResetLinkStates, true, false, false, 1, 1024⟩, [])] ∧
    (p.receive chunk).1.pStatistics = some ⟨1, 1, 0⟩ := by
  intro chunk p
  have hspace : chunk.length ≤ p.writeBuff := by decide +kernel
  refine ⟨onRead_returns .initial hspace, ?_, ?_⟩
  · decide +kernel
  · decide +kernel

end LinkLayerParser
end Link
end Dnp3
