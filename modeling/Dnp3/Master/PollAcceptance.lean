import Dnp3.Master.ConfirmSessions
import Dnp3.Master.SessionRuns

/-!
# What a poll accepts

A poll reads a response of one or more fragments.  The context of the master checks the sequence
numbers, and the task checks that the first fragment, and no other, is marked as the first.  For
this it counts the fragments that it has accepted, in sixteen bits: with the fragment number 65536
the count is zero again, and a first fragment is accepted behind the others.

`AcceptsResponses` reads the exchanges of a task: each of its successes is the end of one response,
whose fragments have consecutive sequence numbers, the first of them that of the request, of which
the first one and no other is marked as the first and the last one as the last, and all of which can
be parsed.  In a run in which no poll is handed a fragment when it has counted 65535 of them,
`polls_accept` shows this for all polls; the run at the end of the module shows what happens with
one fragment more.
-/

namespace Dnp3
namespace Master

open App Library Relation

/-! ## Responses of several fragments -/

/-- A fragment of a response. -/
structure Fragment where
  header : APDUResponseHeader
  objects : List UInt8
  deriving DecidableEq

namespace Fragment

/-- The fragment, as what a task goes on with. -/
def exchange (f : Fragment) : Exchange := .response f.header f.objects

/-- Its objects can be parsed. -/
def Parses (f : Fragment) : Prop := (MeasurementHandler.processMeasurements f.objects).1 = .ok

instance (f : Fragment) : Decidable f.Parses := inferInstanceAs (Decidable (_ = _))

end Fragment

/-- The fragments begin a response whose sequence numbers start with `seq`. -/
structure BeginsResponse (seq : AppSeqNum) (fragments : List Fragment) : Prop where
  first : ∀ f ∈ fragments.head?, f.header.control.FIR = true
  later : ∀ f ∈ fragments.tail, f.header.control.FIR = false
  numbered : ∀ n f, fragments[n]? = some f → f.header.control.SEQ = seq + Fin.ofNat 16 n
  parsed : ∀ f ∈ fragments, f.Parses

/-- The fragments are one response. -/
structure OneResponse (seq : AppSeqNum) (fragments : List Fragment) : Prop
    extends BeginsResponse seq fragments where
  nonempty : fragments ≠ []
  last : ∀ f ∈ fragments.getLast?, f.header.control.FIN = true
  before : ∀ f ∈ fragments.dropLast, f.header.control.FIN = false

theorem beginsResponse_nil (seq : AppSeqNum) : BeginsResponse seq [] := by
  constructor <;> simp

/-- Another fragment is accepted. -/
theorem BeginsResponse.concat {seq : AppSeqNum} {fragments : List Fragment}
    (h : BeginsResponse seq fragments) {f : Fragment}
    (hfir : f.header.control.FIR = true ↔ fragments = [])
    (hseq : f.header.control.SEQ = seq + Fin.ofNat 16 fragments.length) (hparses : f.Parses) :
    BeginsResponse seq (fragments ++ [f]) where
  first := by
    cases fragments with
    | nil => simpa using hfir.mpr rfl
    | cons g fragments => simpa using h.first
  later := by
    cases fragments with
    | nil => simp
    | cons g fragments =>
      have hnot : f.header.control.FIR = false := by simpa using hfir.not.mpr (by simp)
      intro f' hmem
      rcases List.mem_append.mp hmem with hmem | hmem
      · exact h.later f' hmem
      · rw [List.mem_singleton.mp hmem]
        exact hnot
  numbered := by
    intro n f' hget
    rw [List.getElem?_append] at hget
    split at hget
    · exact h.numbered n f' hget
    next hge =>
      obtain hn | hn : n - fragments.length = 0 ∨ 0 < n - fragments.length := Nat.eq_zero_or_pos _
      · obtain rfl : n = fragments.length := by omega
        obtain rfl : f = f' := by simpa using hget
        exact hseq
      · obtain ⟨k, hk⟩ := Nat.exists_eq_add_of_lt hn
        rw [hk] at hget
        simp at hget
  parsed := by
    intro f' hmem
    rcases List.mem_append.mp hmem with hmem | hmem
    · exact h.parsed f' hmem
    · rw [List.mem_singleton.mp hmem]
      exact hparses

/-- The last fragment is accepted. -/
theorem BeginsResponse.finish {seq : AppSeqNum} {fragments : List Fragment} {f : Fragment}
    (h : BeginsResponse seq (fragments ++ [f]))
    (hbefore : ∀ f ∈ fragments, f.header.control.FIN = false)
    (hlast : f.header.control.FIN = true) : OneResponse seq (fragments ++ [f]) where
  toBeginsResponse := h
  nonempty := by simp
  last := by simpa using hlast
  before := by simpa using hbefore

/-- Every success is the end of one response, whose sequence numbers start with that of the
request. -/
def AcceptsResponses (exchanges : List Exchange) : Prop :=
  ∀ before after, exchanges = before ++ .ended .success :: after →
    ∃ earlier apdu header fragments,
      before = earlier ++ .start :: .request apdu :: fragments.map Fragment.exchange ∧
      APDUHeaderParser.parseRequest apdu = some header ∧
      OneResponse header.control.SEQ fragments

theorem acceptsResponses_of_notMem {exchanges : List Exchange}
    (h : .ended .success ∉ exchanges) : AcceptsResponses exchanges := by
  intro before after heq
  exact absurd (by simp [heq]) h

/-- Exchanges that are no success. -/
theorem AcceptsResponses.append {exchanges more : List Exchange} (h : AcceptsResponses exchanges)
    (hmore : .ended .success ∉ more) : AcceptsResponses (exchanges ++ more) := by
  intro before after heq
  rcases List.append_eq_append_iff.mp heq with ⟨middle, rfl, hmiddle⟩ | ⟨middle, rfl, hmiddle⟩
  · exact absurd (by simp [hmiddle]) hmore
  · cases middle with
    | nil => exact absurd (by simp [← show _ = more from hmiddle]) hmore
    | cons x middle =>
      obtain ⟨rfl, -⟩ := List.cons.inj hmiddle
      exact h before middle rfl

/-- A success at the end of a response. -/
theorem AcceptsResponses.success {earlier : List Exchange} {apdu : List UInt8}
    {header : APDUHeader} {fragments : List Fragment}
    (h : AcceptsResponses
      (earlier ++ .start :: .request apdu :: fragments.map Fragment.exchange))
    (hparse : APDUHeaderParser.parseRequest apdu = some header)
    (hone : OneResponse header.control.SEQ fragments) :
    AcceptsResponses
      ((earlier ++ .start :: .request apdu :: fragments.map Fragment.exchange) ++
        [Exchange.ended .success]) := by
  intro before after heq
  rcases List.append_eq_append_iff.mp heq with ⟨middle, rfl, hmiddle⟩ | ⟨middle, hbefore, hmiddle⟩
  · cases middle with
    | nil => exact ⟨earlier, apdu, header, fragments, by simp, hparse, hone⟩
    | cons x middle => simp at hmiddle
  · cases middle with
    | nil => exact ⟨earlier, apdu, header, fragments, by simpa using hbefore.symm, hparse, hone⟩
    | cons x middle =>
      obtain ⟨rfl, -⟩ := List.cons.inj hmiddle
      exact h before middle hbefore

/-! ## What the task does -/

namespace TaskBody

/-- The fragments that a poll has counted. -/
def rxCount : TaskBody → UInt16
  | startupIntegrity _ rxCount | eventScan _ _ rxCount | userPoll _ _ rxCount => rxCount
  | _ => 0

theorem SameClass.isPoll {b b' : TaskBody} (h : SameClass b b') : b'.isPoll = b.isPoll :=
  h.map_eq TaskBody.isPoll (fun _ _ _ => rfl) (fun _ _ _ _ => rfl) (fun _ _ _ _ => rfl)
    (fun _ _ _ _ => rfl) (fun _ _ _ _ => rfl) fun _ _ _ => rfl

variable {a : Surroundings} {body : TaskBody}

theorem rxCount_onStart : body.onStart.rxCount = 0 := by
  cases body <;> rfl

theorem rxCount_buildRequest (hcount : body.rxCount = 0) (request : APDURequest)
    (seq : AppSeqNum) : (body.buildRequest a request seq).1.rxCount = 0 := by
  cases body <;> first | exact hcount | rfl

theorem processResponse_poll (hpoll : body.isPoll = true) (header : APDUResponseHeader)
    (objects : List UInt8) :
    (body.processResponse a header objects).1.rxCount =
        (PollTaskBase.processResponse body.rxCount header objects).1 ∧
      (body.processResponse a header objects).2.1 =
        (PollTaskBase.processResponse body.rxCount header objects).2.1 := by
  cases body <;> first | exact ⟨rfl, rfl⟩ | cases hpoll

end TaskBody

/-- A poll goes on or ends well exactly with the fragments that it accepts. -/
theorem PollTaskBase.processResponse_cases (rxCount : UInt16) (f : Fragment) :
    (processResponse rxCount f.header f.objects).2.1 = .errorBadResponse ∨
    ((f.header.control.FIR = true ↔ rxCount = 0) ∧ f.Parses ∧
      (processResponse rxCount f.header f.objects).1 = rxCount + 1 ∧
      (processResponse rxCount f.header f.objects).2.1 =
        if f.header.control.FIN then .okFinal else .okContinue) := by
  have hmeasured : (processMeasurements rxCount f.header f.objects).2.1 = .errorBadResponse ∨
      (f.Parses ∧ (processMeasurements rxCount f.header f.objects).1 = rxCount + 1 ∧
        (processMeasurements rxCount f.header f.objects).2.1 =
          if f.header.control.FIN then .okFinal else .okContinue) := by
    unfold processMeasurements
    dsimp only
    split
    next hparses => exact .inr ⟨hparses, rfl, rfl⟩
    · exact .inl rfl
  have hpos : rxCount > 0 ↔ rxCount ≠ 0 := by
    rw [gt_iff_lt, ← UInt16.toNat_inj.ne, UInt16.lt_iff_toNat_lt]
    simp only [UInt16.toNat_zero]
    omega
  unfold processResponse
  cases f.header.control.FIR with
  | true =>
    by_cases hzero : rxCount > 0
    · simp [hzero]
    · have hzero' : rxCount = 0 := by simpa [hpos] using hzero
      simp only [if_true, hzero', true_and]
      simpa [hzero'] using hmeasured
  | false =>
    by_cases hzero : rxCount > 0
    · have hzero' : rxCount ≠ 0 := hpos.mp hzero
      simp only [Bool.false_eq_true, if_false, hzero, if_true, hzero', true_and]
      exact hmeasured
    · simp [hzero]

/-! ## What a session does -/

/-- The count of fragments does not return to zero: a poll that has counted 65535 fragments is not
handed one that it accepts and that is not the last. -/
def CountsFragments : TaskSession.Terms where
  Makes _ := True
  Hands t header objects :=
    t.body.isPoll = true → t.body.rxCount = 65535 → header.control.FIR = false →
      (Fragment.mk header objects).Parses → header.control.FIN = true

/-- The fragments that a poll has accepted since its request. -/
structure Receiving (exchanges : List Exchange) (rxCount : UInt16) (seq : AppSeqNum)
    (earlier : List Exchange) (apdu : List UInt8) (header : APDUHeader)
    (fragments : List Fragment) : Prop where
  exchanges : exchanges = earlier ++ .start :: .request apdu :: fragments.map Fragment.exchange
  request : APDUHeaderParser.parseRequest apdu = some header
  begins : BeginsResponse header.control.SEQ fragments
  unfinished : ∀ f ∈ fragments, f.header.control.FIN = false
  seq : seq = header.control.SEQ + Fin.ofNat 16 fragments.length
  count : rxCount.toNat = fragments.length

/-- What a poll has exchanged since it started. -/
def Polls (t : TaskSession) : TaskPhase → Prop
  | .idle => True
  | .ready => t.body.rxCount = 0 ∧ ∃ earlier, t.exchanges = earlier ++ [.start]
  | .waiting seq => ∃ earlier apdu header fragments,
      Receiving t.exchanges t.body.rxCount seq earlier apdu header fragments

/-- What holds of the session of a poll. -/
structure PollSession (t : TaskSession) : Prop where
  unmade : t.made = false → t.phase = .idle ∧ .ended .success ∉ t.exchanges
  accepts : t.body.isPoll = true → AcceptsResponses t.exchanges
  polls : t.body.isPoll = true → Polls t t.phase

theorem Receiving.accept {exchanges earlier : List Exchange} {rxCount : UInt16} {seq : AppSeqNum}
    {apdu : List UInt8} {header : APDUHeader} {fragments : List Fragment}
    (h : Receiving exchanges rxCount seq earlier apdu header fragments) {f : Fragment}
    (hseq : f.header.control.SEQ = seq) (hfir : f.header.control.FIR = true ↔ rxCount = 0)
    (hparses : f.Parses) : BeginsResponse header.control.SEQ (fragments ++ [f]) := by
  refine h.begins.concat ?_ (hseq.trans h.seq) hparses
  rw [hfir, ← UInt16.toNat_inj, h.count, UInt16.toNat_zero, List.length_eq_zero_iff]

theorem Receiving.exchanges_concat {exchanges earlier : List Exchange} {rxCount : UInt16}
    {seq : AppSeqNum} {apdu : List UInt8} {header : APDUHeader} {fragments : List Fragment}
    (h : Receiving exchanges rxCount seq earlier apdu header fragments) (f : Fragment) :
    exchanges ++ [f.exchange] =
      earlier ++ .start :: .request apdu :: (fragments ++ [f]).map Fragment.exchange := by
  rw [h.exchanges]
  simp

/-- A fragment that is accepted and is not the last. -/
theorem Receiving.continue {exchanges earlier : List Exchange} {rxCount : UInt16}
    {seq : AppSeqNum} {apdu : List UInt8} {header : APDUHeader} {fragments : List Fragment}
    (h : Receiving exchanges rxCount seq earlier apdu header fragments) {f : Fragment}
    (hseq : f.header.control.SEQ = seq) (hfir : f.header.control.FIR = true ↔ rxCount = 0)
    (hparses : f.Parses) (hfin : f.header.control.FIN = false) (hcount : rxCount ≠ 65535) :
    Receiving (exchanges ++ [f.exchange]) (rxCount + 1) (seq + 1) earlier apdu header
      (fragments ++ [f]) where
  exchanges := h.exchanges_concat f
  request := h.request
  begins := h.accept hseq hfir hparses
  unfinished := by
    intro f' hmem
    rcases List.mem_append.mp hmem with hmem | hmem
    · exact h.unfinished f' hmem
    · rw [List.mem_singleton.mp hmem]
      exact hfin
  seq := by
    rw [h.seq, List.length_append, List.length_singleton, add_assoc]
    congr 1
    ext
    simp [Fin.val_add]
  count := by
    have hlt := rxCount.toNat_lt
    have hne : rxCount.toNat ≠ 65535 := fun heq => hcount (UInt16.toNat_inj.mp heq)
    rw [UInt16.toNat_add, List.length_append, List.length_singleton, ← h.count]
    exact Nat.mod_eq_of_lt (by simp; omega)

theorem PollSession.response {t : TaskSession} (h : PollSession t) {a : Surroundings}
    {f : Fragment} (hwaiting : t.phase = .waiting f.header.control.SEQ)
    (hhanded : CountsFragments.Hands t f.header f.objects) :
    PollSession (t.answer a f.header f.objects) := by
  have hclass := TaskBody.sameClass_processResponse a f.header f.objects t.body
  have hmade : t.made = true := by
    by_contra hnew
    simp [(h.unmade (by simpa using hnew)).1] at hwaiting
  have hboth : (t.answer a f.header f.objects).body.isPoll = true →
      AcceptsResponses (t.answer a f.header f.objects).exchanges ∧
        Polls (t.answer a f.header f.objects) (t.answer a f.header f.objects).phase := by
    intro hpoll
    have hpoll : t.body.isPoll = true := by
      rw [← hclass.isPoll]
      exact hpoll
    have haccepts := h.accepts hpoll
    have hreceiving := h.polls hpoll
    rw [hwaiting] at hreceiving
    obtain ⟨earlier, apdu, header, fragments, hreceiving⟩ := hreceiving
    obtain ⟨hcount, hresult⟩ := TaskBody.processResponse_poll (a := a) hpoll f.header f.objects
    have hresponse : AcceptsResponses (t.exchanges ++ [f.exchange]) :=
      haccepts.append (by simp [Fragment.exchange])
    rcases PollTaskBase.processResponse_cases t.body.rxCount f with
      hbad | ⟨hfir, hparses, hnext, haccepted⟩
    · have hanswer : (t.answer a f.header f.objects).exchanges =
          t.exchanges ++ [f.exchange] ++ [Exchange.ended .failureBadResponse] := by
        simp [TaskSession.answer, hresult, hbad, ResponseResult.completion, Fragment.exchange]
      have hphase : (t.answer a f.header f.objects).phase = .idle := by
        simp [TaskSession.answer, hresult, hbad, ResponseResult.nextPhase]
      rw [hanswer, hphase]
      exact ⟨hresponse.append (by simp), trivial⟩
    · cases hfin : f.header.control.FIN with
      | true =>
        have hanswer : (t.answer a f.header f.objects).exchanges =
            t.exchanges ++ [f.exchange] ++ [Exchange.ended .success] := by
          simp [TaskSession.answer, hresult, haccepted, hfin, ResponseResult.completion,
            Fragment.exchange]
        have hphase : (t.answer a f.header f.objects).phase = .idle := by
          simp [TaskSession.answer, hresult, haccepted, hfin, ResponseResult.nextPhase]
        have hone := (hreceiving.accept rfl hfir hparses).finish hreceiving.unfinished hfin
        rw [hanswer, hphase, hreceiving.exchanges_concat f]
        rw [hreceiving.exchanges_concat f] at hresponse
        exact ⟨hresponse.success hreceiving.request hone, trivial⟩
      | false =>
        have hanswer : (t.answer a f.header f.objects).exchanges = t.exchanges ++ [f.exchange] := by
          simp [TaskSession.answer, hresult, haccepted, hfin, ResponseResult.completion,
            Fragment.exchange]
        have hphase : (t.answer a f.header f.objects).phase =
            .waiting (f.header.control.SEQ + 1) := by
          simp [TaskSession.answer, hresult, haccepted, hfin, ResponseResult.nextPhase]
        have hbody : (t.answer a f.header f.objects).body.rxCount = t.body.rxCount + 1 := by
          rw [← hnext, ← hcount]
          rfl
        have hnot : t.body.rxCount ≠ 65535 := by
          intro hlast
          have hlater : f.header.control.FIR = false := by
            have hnot := hfir.not.mpr (by rw [hlast]; decide)
            simpa using hnot
          simp [hhanded hpoll hlast hlater hparses] at hfin
        have hgoes := hreceiving.continue rfl hfir hparses hfin hnot
        rw [hphase]
        refine ⟨hanswer ▸ hresponse, earlier, apdu, header, fragments ++ [f], ?_⟩
        rw [hanswer, hbody]
        exact hgoes
  refine ⟨fun hnew => ?_, fun hpoll => (hboth hpoll).1, fun hpoll => (hboth hpoll).2⟩
  exact absurd (hmade.symm.trans hnew) (by simp)

theorem PollSession.step {t t' : TaskSession} (hstep : TaskSession.Step CountsFragments t t')
    (h : PollSession t) : PollSession t' := by
  cases hstep with
  | make body hnew hidle hmakes =>
    refine ⟨(nomatch ·), fun _ => ?_, fun _ => ?_⟩
    · exact acceptsResponses_of_notMem (h.unmade hnew).2
    · rw [hidle]
      exact trivial
  | start hidle hmade honce =>
    have hclass := TaskBody.sameClass_onStart t.body
    refine ⟨fun hnew => absurd (hmade.symm.trans hnew) (by simp), fun hpoll => ?_, fun hpoll => ?_⟩
    · exact (h.accepts (hclass.isPoll.symm.trans hpoll)).append (by simp)
    · exact ⟨TaskBody.rxCount_onStart, t.exchanges, rfl⟩
  | request a happends txBuffer hroom seq hready hbuilt =>
    have hclass := TaskBody.sameClass_buildRequest a (.create txBuffer) seq t.body
    refine ⟨fun hnew => ?_, fun hpoll => ?_, fun hpoll => ?_⟩
    · simp [(h.unmade hnew).1] at hready
    · exact (h.accepts (hclass.isPoll.symm.trans hpoll)).append (by simp)
    · have hpoll : t.body.isPoll = true := hclass.isPoll.symm.trans hpoll
      have hpolls := h.polls hpoll
      rw [hready] at hpolls
      obtain ⟨hcount, earlier, hexchanges⟩ := hpolls
      obtain ⟨objects, hstarts⟩ := TaskBody.starts_buildRequest happends hroom hpoll
      refine ⟨earlier, (AppControlField.request seq).toByte :: FunctionCode.read.toType :: objects,
        { function := .fromType FunctionCode.read.toType
          control := .ofByte (AppControlField.request seq).toByte }, [],
        ?_, rfl, beginsResponse_nil _, by simp, ?_, ?_⟩
      · rw [hexchanges, hstarts]
        simp
      · simp [AppControlField.request]
      · simp [TaskBody.rxCount_buildRequest hcount]
  | unbuilt a txBuffer seq hready hbuilt =>
    have hclass := TaskBody.sameClass_buildRequest a (.create txBuffer) seq t.body
    refine ⟨fun hnew => ⟨rfl, ?_⟩, fun hpoll => ?_, fun _ => trivial⟩
    · simpa using (h.unmade hnew).2
    · exact (h.accepts (hclass.isPoll.symm.trans hpoll)).append (by simp)
  | response a header objects hwaiting hhanded =>
    exact h.response (f := ⟨header, objects⟩) hwaiting hhanded
  | ended result hresult =>
    refine ⟨fun hnew => ⟨rfl, ?_⟩, fun hpoll => ?_, fun _ => trivial⟩
    · simpa [hresult.symm] using (h.unmade hnew).2
    · exact (h.accepts hpoll).append (by simpa using hresult.symm)

namespace MContext

variable {s : MContext} {ref : TaskRef}

/-! ## Responses with another sequence number -/

/-- Indications demand their tasks, and nothing else. -/
theorem processIIN_eq (s : MContext) (iin : IINField) : ∃ tasks log,
    s.processIIN iin = { s with tasks := tasks, log := log } ∧
    ∀ ref, tasks ref =
      if ref ∈ demanded s.params iin then (s.tasks ref).demand else s.tasks ref := by
  unfold processIIN
  generalize demanded s.params iin = refs
  induction refs generalizing s with
  | nil => exact ⟨s.tasks, s.log, rfl, fun _ => rfl⟩
  | cons next refs ih =>
    obtain ⟨tasks, log, h, htasks⟩ := ih (s.demand next)
    refine ⟨tasks, log, h, fun ref => ?_⟩
    rw [htasks, demand_eq]
    by_cases heq : ref = next
    · subst heq
      rw [if_pos List.mem_cons_self]
      show (if _ then (Function.update s.tasks ref (s.tasks ref).demand ref).demand else
        Function.update s.tasks ref (s.tasks ref).demand ref) = _
      rw [Function.update_self]
      exact ite_self _
    · have hmem : ref ∈ next :: refs ↔ ref ∈ refs := by simp [heq]
      show (if _ then (Function.update s.tasks next (s.tasks next).demand ref).demand else
        Function.update s.tasks next (s.tasks next).demand ref) = _
      rw [Function.update_of_ne heq, ite_congr (propext hmem) (fun _ => rfl) (fun _ => rfl)]

/-- A response with another sequence number than the one that is expected leaves alone which task is
active, what the tasks are doing, the expected number and the response timer.  Online, the
indications of the response demand their tasks; every other task stays as it is. -/
def IgnoresOthers (s : MContext) (e : Event × Surroundings) : Prop :=
  ∀ apdu header, e.1 = .receive apdu → APDUHeaderParser.parseResponse apdu = some header →
    header.function = .response → header.control.SEQ ≠ s.solSeq →
    (s.step e).pActiveTask = s.pActiveTask ∧ (s.step e).tstate = s.tstate ∧
    (∀ ref, (s.step e).tasks ref =
      if s.isOnline = true ∧ ref ∈ demanded s.params header.IIN then (s.tasks ref).demand
      else s.tasks ref) ∧
    (s.step e).solSeq = s.solSeq ∧ (s.step e).responseTimer = s.responseTimer

theorem ignoresOthers (s : MContext) (e : Event × Surroundings) : s.IgnoresOthers e := by
  obtain ⟨e, a⟩ := e
  rintro apdu header rfl hparse hfunction hseq
  show (s.onReceive a apdu).pActiveTask = _ ∧ (s.onReceive a apdu).tstate = _ ∧
    (∀ ref, (s.onReceive a apdu).tasks ref = _) ∧
    (s.onReceive a apdu).solSeq = _ ∧ (s.onReceive a apdu).responseTimer = _
  unfold onReceive
  split
  next honline =>
    set s₁ := s.noteReceived header (apdu.drop 4) with hs₁
    have hseq₁ : header.control.SEQ ≠ s₁.solSeq := hseq
    have hevent : s₁.onResponseEvent a s.received header (apdu.drop 4) = s₁ := by
      unfold onResponseEvent onResponseWaitForResponse
      split
      · split
        · rfl
        · rw [if_pos hseq₁]
      · rfl
    have hprocessed : s₁.processAPDU a s.received header (apdu.drop 4) =
        s₁.processIIN header.IIN := by
      simp only [processAPDU, hfunction, processResponse, hevent]
    obtain ⟨tasks, log, h, htasks⟩ := processIIN_eq s₁ header.IIN
    rw [hparse]
    dsimp only
    rw [hprocessed, h]
    refine ⟨rfl, rfl, fun ref => ?_, rfl, rfl⟩
    simp only [honline, true_and]
    exact htasks ref
  next hoffline =>
    refine ⟨rfl, rfl, fun ref => ?_, rfl, rfl⟩
    rw [if_neg fun h => hoffline h.1]

/-! ## Runs -/

/-- While the task is a poll, each of its successes is the end of one response. -/
def Traced.AcceptsResponses (ref : TaskRef) (t : Traced) : Prop :=
  (t.context.tasks ref).body.isPoll = true → Master.AcceptsResponses t.exchanges

theorem Traced.pollSession_initial (params : MasterParams) (ref : TaskRef) :
    PollSession ((Traced.initial params).session ref) := by
  rw [Traced.session_initial]
  exact ⟨fun _ => ⟨rfl, by simp⟩, fun _ => acceptsResponses_of_notMem (by simp), fun _ => trivial⟩

/-- As long as no poll counts its fragments to zero, a poll that ends with success has accepted the
fragments of one response to its request, and responses with another sequence number are ignored. -/
theorem polls_accept {params : MasterParams} (hroom : 2 ≤ params.maxTxFragSize) (ref : TaskRef)
    {events : List (Event × Surroundings)} (happends : ∀ e ∈ events, e.2.Appends)
    (hcounts : Throughout (Traced.step ref) (Traced.Follows CountsFragments ref)
      (Traced.initial params) events) :
    Always (Traced.step ref) (Traced.AcceptsResponses ref) (Traced.initial params) events ∧
      Throughout (Traced.step ref) (fun t e => t.context.IgnoresOthers e) (Traced.initial params)
        events := by
  constructor
  · refine (Traced.always_steps hroom happends hcounts).imp fun t hsteps hpoll => ?_
    have hsession : PollSession (t.session ref) :=
      hsteps.keeps (fun _ _ hstep h => h.step hstep) (Traced.pollSession_initial params ref)
    exact hsession.accepts hpoll
  · exact throughout_of_forall fun e _ t => ignoresOthers t.context e

/-- A poll that has not counted 65535 fragments may be handed any response. -/
theorem Traced.follows_countsFragments {t : Traced} (h : (t.context.tasks ref).body.rxCount ≠ 65535)
    (e : Event × Surroundings) : t.Follows CountsFragments ref e :=
  ⟨fun _ _ => trivial, fun _ _ _ _ hcount => absurd hcount h⟩

/-! ## Fragments without measurements -/

variable {a : Surroundings} {apdu : List UInt8} {header : APDUResponseHeader}

/-- A response that asks for no confirm and has no indications is handed to the active task. -/
theorem receive_plain (honline : s.isOnline = true)
    (hparse : APDUHeaderParser.parseResponse apdu = some header) (hawaits : s.Awaits ref header)
    (hiin : header.IIN = .empty) :
    s.step (.receive apdu, a) = (s.noteReceived header (apdu.drop 4)).onResponseWaitForResponse a
      s.received header (apdu.drop 4) := by
  have hwaiting : (s.noteReceived header (apdu.drop 4)).tstate = .waitForResponse := hawaits.2.1
  have hnothing (s : MContext) : s.processIIN .empty = s := by
    have hdemanded : demanded s.params .empty = [] := by
      simp [demanded, IINField.isSet, IINField.empty]
    rw [processIIN, hdemanded]
    rfl
  show s.onReceive a apdu = _
  unfold onReceive
  rw [if_pos honline, hparse]
  simp only [processAPDU, hawaits.1, processResponse, onResponseEvent, hwaiting, hiin, hnothing]

/-- A fragment without objects. -/
def plainFragment (fir fin : Bool) (seq : AppSeqNum) : Fragment where
  header :=
    { function := .response
      control := { FIR := fir, FIN := fin, CON := false, UNS := false, SEQ := seq }
      IIN := .empty }
  objects := []

/-- The fragment as it is received. -/
def plainBytes (fir fin : Bool) (seq : AppSeqNum) : List UInt8 :=
  [(plainFragment fir fin seq).header.control.toByte, 0x81, 0, 0]

theorem parseResponse_plainBytes (fir fin : Bool) (seq : AppSeqNum) :
    APDUHeaderParser.parseResponse (plainBytes fir fin seq) =
      some (plainFragment fir fin seq).header := by
  simp only [APDUHeaderParser.parseResponse, plainBytes, AppControlField.ofByte_toByte]
  rfl

theorem processResponse_plain {fir : Bool} {rxCount : UInt16} (hfir : fir = true ↔ rxCount = 0)
    (fin : Bool) (seq : AppSeqNum) :
    PollTaskBase.processResponse rxCount (plainFragment fir fin seq).header [] =
      (rxCount + 1, if fin then .okFinal else .okContinue, []) := by
  have hmeasured : MeasurementHandler.processMeasurements [] = (.ok, []) := by decide +kernel
  have hpos : rxCount > 0 ↔ ¬ rxCount = 0 := by
    rw [gt_iff_lt, ← UInt16.toNat_inj, UInt16.lt_iff_toNat_lt, UInt16.toNat_zero]
    omega
  unfold PollTaskBase.processResponse PollTaskBase.processMeasurements
  rw [hmeasured]
  cases fir with
  | true =>
    have hzero : rxCount = 0 := hfir.mp rfl
    cases fin <;> simp [plainFragment, hzero]
  | false =>
    have hzero : rxCount > 0 := hpos.mpr (by simpa using hfir)
    cases fin <;> simp [plainFragment, hzero]

/-- A poll that has been handed these fragments since its only request. -/
structure Collecting (t : Traced) (apdu : List UInt8) (fragments : List Fragment) : Prop where
  online : t.context.isOnline = true
  waiting : t.context.tstate = .waitForResponse
  active : t.context.pActiveTask = some .startupIntegrity
  seq : t.context.solSeq = Fin.ofNat 16 fragments.length
  poll : (t.context.tasks .startupIntegrity).body.isPoll = true
  count : (t.context.tasks .startupIntegrity).body.rxCount = UInt16.ofNat fragments.length
  exchanges : t.exchanges = .start :: .request apdu :: fragments.map Fragment.exchange

/-- The next fragment without objects, which is marked as the first if the count is zero. -/
def nextBytes (n : Nat) (fin : Bool) : List UInt8 :=
  plainBytes (UInt16.ofNat n == 0) fin (Fin.ofNat 16 n)

/-- The fragments of a response that never ends; their count wraps. -/
def nextFragment (n : Nat) (fin : Bool) : Fragment :=
  plainFragment (UInt16.ofNat n == 0) fin (Fin.ofNat 16 n)

/-- The fragment is handed to the poll, which accepts it. -/
theorem Collecting.receive {t : Traced} {fragments : List Fragment}
    (h : Collecting t apdu fragments) (a : Surroundings) (fin : Bool) :
    t.context.step (.receive (nextBytes fragments.length fin), a) =
      (t.context.noteReceived (nextFragment fragments.length fin).header
        []).onResponseWaitForResponse a t.context.received
          (nextFragment fragments.length fin).header [] ∧
    t.context.responseFor .startupIntegrity (.receive (nextBytes fragments.length fin)) =
      [(nextFragment fragments.length fin).exchange] := by
  have hparse := parseResponse_plainBytes (UInt16.ofNat fragments.length == 0) fin
    (Fin.ofNat 16 fragments.length)
  have hawaits : t.context.Awaits .startupIntegrity (nextFragment fragments.length fin).header :=
    ⟨rfl, h.waiting, h.seq.symm, h.active⟩
  refine ⟨receive_plain h.online hparse hawaits rfl, ?_⟩
  have hhands : t.context.isOnline = true ∧
      t.context.Awaits .startupIntegrity (nextFragment fragments.length fin).header :=
    ⟨h.online, hawaits⟩
  simp only [responseFor, nextBytes, hparse]
  exact if_pos hhands

theorem Collecting.answer {t : Traced} {fragments : List Fragment}
    (h : Collecting t apdu fragments) (a : Surroundings) (fin : Bool) :
    let answer := (t.context.tasks .startupIntegrity).body.processResponse a
      (nextFragment fragments.length fin).header []
    answer.1.isPoll = true ∧ answer.1.rxCount = UInt16.ofNat (fragments.length + 1) ∧
      answer.2.1 = if fin then .okFinal else .okContinue := by
  dsimp only
  have hclass := TaskBody.sameClass_processResponse a (nextFragment fragments.length fin).header []
    (t.context.tasks .startupIntegrity).body
  obtain ⟨hcount, hresult⟩ := TaskBody.processResponse_poll (a := a) h.poll
    (nextFragment fragments.length fin).header []
  have hfirst : (UInt16.ofNat fragments.length == 0) = true ↔
      UInt16.ofNat fragments.length = 0 := by simp
  have hanswer := processResponse_plain hfirst fin (Fin.ofNat 16 fragments.length)
  rw [h.count, nextFragment, hanswer] at hcount hresult
  exact ⟨hclass.isPoll.trans h.poll, by simpa [nextFragment] using hcount,
    by simpa [nextFragment] using hresult⟩

/-- A fragment that is not the last. -/
theorem Collecting.continue {t : Traced} {fragments : List Fragment}
    (h : Collecting t apdu fragments) (a : Surroundings) :
    Collecting (t.step .startupIntegrity (.receive (nextBytes fragments.length false), a)) apdu
      (fragments ++ [nextFragment fragments.length false]) := by
  obtain ⟨hstep, hgiven⟩ := h.receive a false
  obtain ⟨hpoll, hcount, hgoes⟩ := h.answer a false
  set f := nextFragment fragments.length false with hf
  set s₁ := t.context.noteReceived f.header [] with hs₁
  have hactive : s₁.pActiveTask = some .startupIntegrity := h.active
  have hseq : f.header.control.SEQ = s₁.solSeq := h.seq.symm
  have hresult : ((s₁.tasks .startupIntegrity).body.processResponse a f.header []).2.1 =
      .okContinue := hgoes
  obtain ⟨entries, hanswered, hnone⟩ :=
    answered_eq s₁ a .startupIntegrity t.context.received f.header [] .startupIntegrity
  have hstep : t.context.step (.receive (nextBytes fragments.length false), a) =
      (s₁.answered a .startupIntegrity t.context.received f.header []).startResponseTimer a := by
    rw [hstep, onResponseWaitForResponse_eq hactive t.context.received hseq, hresult]
    rfl
  have hlog : (t.context.step (.receive (nextBytes fragments.length false), a)).log =
      t.context.log ++ (.received t.context.received f.header [] :: entries) := by
    rw [hstep, hanswered]
    simp [startResponseTimer, hs₁, noteReceived]
  have hbody : ((t.context.step (.receive (nextBytes fragments.length false), a)).tasks
      .startupIntegrity).body =
        ((s₁.tasks .startupIntegrity).body.processResponse a f.header []).1 := by
    rw [hstep, hanswered]
    simp [startResponseTimer]
  refine ⟨?_, ?_, ?_, ?_, ?_, ?_, ?_⟩
  · rw [Traced.step, hstep, hanswered]
    exact h.online
  · rw [Traced.step, hstep, hanswered]
    exact h.waiting
  · rw [Traced.step, hstep, hanswered]
    exact h.active
  · rw [Traced.step, hstep, hanswered, List.length_append, List.length_singleton]
    show t.context.solSeq + 1 = _
    rw [h.seq]
    ext
    simp [Fin.val_add]
  · rw [Traced.step, hbody]
    exact hpoll
  · rw [Traced.step, hbody, List.length_append, List.length_singleton]
    exact hcount
  · simp only [Traced.step, hgiven, hlog, List.drop_left, List.filterMap_cons, exchangeOf, hnone,
      List.append_nil, h.exchanges]
    simp

/-- The last fragment ends the poll. -/
theorem Collecting.finish {t : Traced} {fragments : List Fragment}
    (h : Collecting t apdu fragments) (a : Surroundings) :
    let t' := t.step .startupIntegrity (.receive (nextBytes fragments.length true), a)
    (t'.context.tasks .startupIntegrity).body.isPoll = true ∧
      t'.exchanges = .start :: .request apdu ::
        (fragments ++ [nextFragment fragments.length true]).map Fragment.exchange ++
          [Exchange.ended .success] := by
  obtain ⟨hstep, hgiven⟩ := h.receive a true
  obtain ⟨hpoll, -, hends⟩ := h.answer a true
  set f := nextFragment fragments.length true with hf
  set s₁ := t.context.noteReceived f.header [] with hs₁
  have hactive : s₁.pActiveTask = some .startupIntegrity := h.active
  have hseq : f.header.control.SEQ = s₁.solSeq := h.seq.symm
  have hresult : ((s₁.tasks .startupIntegrity).body.processResponse a f.header []).2.1 =
      .okFinal := hends
  obtain ⟨entries, hanswered, hnone⟩ :=
    answered_eq s₁ a .startupIntegrity t.context.received f.header [] .startupIntegrity
  have hactive₁ : (s₁.answered a .startupIntegrity t.context.received f.header []).pActiveTask =
      some .startupIntegrity := (answered_pActiveTask ..).trans hactive
  have hstep : t.context.step (.receive (nextBytes fragments.length true), a) =
      { ((s₁.answered a .startupIntegrity t.context.received f.header []).endTask a
        .startupIntegrity .success).completeActiveTask with tstate := .idle } := by
    rw [hstep, onResponseWaitForResponse_eq hactive t.context.received hseq, hresult]
    rfl
  obtain ⟨ended, hlog, hcompleted, hsession⟩ := session_finish (a := a) hactive₁ .success
  have hlog : (t.context.step (.receive (nextBytes fragments.length true), a)).log =
      t.context.log ++ (.received t.context.received f.header [] :: entries ++ ended) := by
    rw [hstep, hlog, hanswered]
    simp [hs₁, noteReceived]
  have hbody := congrArg TaskSession.body (hsession [])
  refine ⟨?_, ?_⟩
  · rw [Traced.step, hstep]
    refine (congrArg TaskBody.isPoll hbody).trans ?_
    rw [hanswered]
    simp only [Function.update_self]
    exact hpoll
  · simp only [Traced.step, hgiven, hlog, List.drop_left, List.filterMap_append,
      List.filterMap_cons, exchangeOf, hnone, hcompleted, h.exchanges]
    simp

/-- Fragments without objects, none of which is the last. -/
def plainEvents (n : Nat) : List (Event × Surroundings) :=
  (List.range n).map fun k => (.receive (nextBytes k false), exampleSurroundings)

theorem Collecting.run {t : Traced} (h : Collecting t apdu []) (n : Nat) :
    Collecting (Library.run (Traced.step .startupIntegrity) t (plainEvents n)) apdu
      ((List.range n).map fun k => nextFragment k false) := by
  induction n with
  | zero => exact h
  | succ n ih =>
    have hnext := ih.continue exampleSurroundings
    rw [List.length_map, List.length_range] at hnext
    rw [plainEvents, List.range_succ, List.map_append, run_append, List.map_append]
    exact hnext

/-- No start follows the start of a poll that has only received fragments. -/
theorem AcceptsResponses.one {fragments : List Fragment}
    (h : Master.AcceptsResponses (.start :: .request apdu :: fragments.map Fragment.exchange ++
      [Exchange.ended .success])) : ∃ seq, OneResponse seq fragments := by
  obtain ⟨earlier, apdu', header, fragments', heq, -, hone⟩ := h _ [] rfl
  cases earlier with
  | nil =>
    simp only [List.nil_append, List.cons.injEq, true_and] at heq
    have hinjective : Function.Injective Fragment.exchange := by
      rintro ⟨header, objects⟩ ⟨header', objects'⟩ hexchange
      simpa [Fragment.exchange] using hexchange
    rw [(List.map_injective_iff.mpr hinjective) heq.2]
    exact ⟨_, hone⟩
  | cons x earlier =>
    have hmem : Exchange.start ∈ .request apdu :: fragments.map Fragment.exchange := by
      rw [(List.cons.inj heq).2]
      simp
    simp [Fragment.exchange] at hmem

/-- A master that starts with the integrity poll. -/
def pollFirstParams : MasterParams := { exampleParams with disableUnsolOnStartup := false }

/-- Up to the request of the poll. -/
def pollFirstEvents : List (Event × Surroundings) :=
  [.lowerLayerUp, .runPosted, .sendResult].map fun e => (e, exampleSurroundings)

theorem collecting_pollFirst : ∃ apdu, Collecting
    (Library.run (Traced.step .startupIntegrity) (Traced.initial pollFirstParams) pollFirstEvents)
    apdu [] := by
  refine ⟨[0xC0, 1, 60, 2, 6, 60, 3, 6, 60, 4, 6, 60, 1, 6], ?_, ?_, ?_, ?_, ?_, ?_, ?_⟩ <;>
    decide +kernel

/-- What is accepted when the integrity poll receives `n` fragments and a last one. -/
theorem accepts_plainEvents {n : Nat}
    (h : Always (Traced.step .startupIntegrity) (Traced.AcceptsResponses .startupIntegrity)
      (Traced.initial pollFirstParams) (pollFirstEvents ++ (plainEvents n ++
        [(.receive (nextBytes n true), exampleSurroundings)]))) :
    ∃ seq, OneResponse seq
      (((List.range n).map fun k => nextFragment k false) ++ [nextFragment n true]) := by
  obtain ⟨apdu, hfirst⟩ := collecting_pollFirst
  have hfinish := (hfirst.run n).finish exampleSurroundings
  rw [List.length_map, List.length_range] at hfinish
  have haccepts := h.last
  rw [run_append, run_append] at haccepts
  have haccepts := haccepts hfinish.1
  rw [run_cons, run_nil, hfinish.2] at haccepts
  exact AcceptsResponses.one haccepts

/-- The integrity poll receives 65536 fragments, none of which is the last, and then one that is
marked as the first and the last. -/
theorem polls_accept_wrapped :
    ¬ Always (Traced.step .startupIntegrity) (Traced.AcceptsResponses .startupIntegrity)
      (Traced.initial pollFirstParams)
      (pollFirstEvents ++ (plainEvents 65536 ++
        [(.receive (nextBytes 65536 true), exampleSurroundings)])) := by
  intro h
  obtain ⟨seq, hone⟩ := accepts_plainEvents h
  have hnonempty : (List.range 65536).map (fun k => nextFragment k false) ≠ [] := by
    rw [Ne, List.map_eq_nil_iff, List.range_eq_nil]
    decide
  have hlater := hone.later (nextFragment 65536 true) (by
    rw [List.tail_append_of_ne_nil hnonempty]
    simp)
  simp [nextFragment, plainFragment] at hlater

theorem appends_exampleSurroundings : exampleSurroundings.Appends := fun _ => .refl _

/-- The integrity poll receives two fragments. -/
theorem polls_accept_two :
    Always (Traced.step .startupIntegrity) (Traced.AcceptsResponses .startupIntegrity)
      (Traced.initial pollFirstParams)
      (pollFirstEvents ++ (plainEvents 1 ++
        [(.receive (nextBytes 1 true), exampleSurroundings)])) ∧
      Throughout (Traced.step .startupIntegrity) (fun t e => t.context.IgnoresOthers e)
        (Traced.initial pollFirstParams)
        (pollFirstEvents ++ (plainEvents 1 ++
          [(.receive (nextBytes 1 true), exampleSurroundings)])) := by
  refine polls_accept (by decide) .startupIntegrity ?_ ?_
  · intro e he
    simp only [pollFirstEvents, plainEvents, List.mem_append, List.mem_map,
      List.mem_singleton] at he
    obtain ⟨_, _, rfl⟩ | ⟨_, _, rfl⟩ | rfl := he <;> exact appends_exampleSurroundings
  · have hcount : Throughout (Traced.step .startupIntegrity)
        (fun t _ => (t.context.tasks .startupIntegrity).body.rxCount ≠ 65535)
        (Traced.initial pollFirstParams)
        (pollFirstEvents ++ (plainEvents 1 ++
          [(.receive (nextBytes 1 true), exampleSurroundings)])) := by decide +kernel
    exact hcount.imp (I := fun _ => True) (fun _ _ _ _ => trivial)
      (fun t e _ h => t.follows_countsFragments h e) trivial

end MContext
end Master
end Dnp3
