import Dnp3.Master.RequestRoom
import Dnp3.Master.TaskStarts

/-!
# The session of one task

Seen from one task, a master is a small machine.  The task starts, transmits a request, waits for
the response with the sequence number of the request, goes on with the next response or the next
request, and ends.  `TaskSession` is this machine, with all that has passed between the task and the
outstation so far, and every run of a master is a run of it, for each of its tasks.

`Step` has the steps of the machine, and `Exchange` what passes: the start, requests with their
bytes, responses with the sequence numbers, and the end.  `Terms` are conditions on what a task is
made as and on the responses it is handed, so that one machine serves runs with and without such
conditions.  `Traced` is a master with the exchanges of one of its tasks beside it, and `Leads` and
`Still` say what a handler of the master is to that task: some steps of its session, or none.
-/

namespace Dnp3
namespace Master

open App Library Relation

/-- What passes between a task and the outstation, with the starts and the ends of the task. -/
inductive Exchange where
  | start
  | request (apdu : List UInt8)
  | response (header : APDUResponseHeader) (objects : List UInt8)
  | ended (result : TaskCompletion)
  deriving DecidableEq

/-- Where a task is. -/
inductive TaskPhase where
  /-- It is not active. -/
  | idle
  /-- It is active, and its next request is to be transmitted. -/
  | ready
  /-- Its request was transmitted; the response has this sequence number. -/
  | waiting (seq : AppSeqNum)
  deriving DecidableEq, Repr

/-- Where a task is when it has processed a response. -/
def ResponseResult.nextPhase (seq : AppSeqNum) : ResponseResult → TaskPhase
  | .okContinue => .waiting (seq + 1)
  | .okRepeat => .ready
  | _ => .idle

/-- A task with all that it has exchanged. -/
structure TaskSession where
  made : Bool
  exchanges : List Exchange
  phase : TaskPhase
  body : TaskBody

namespace TaskSession

/-- The task processes a response. -/
def answer (t : TaskSession) (a : Surroundings) (header : APDUResponseHeader)
    (objects : List UInt8) : TaskSession :=
  let answer := t.body.processResponse a header objects
  { t with
    exchanges := t.exchanges ++
      .response header objects :: (answer.2.1.completion.map Exchange.ended).toList
    phase := answer.2.1.nextPhase header.control.SEQ
    body := answer.1 }

/-- Conditions on what a task is made as, and on the responses that it is handed. -/
structure Terms where
  Makes : TaskBody → Prop
  Hands : TaskSession → APDUResponseHeader → List UInt8 → Prop

/-- The steps of a task on these terms.  A task that does not recur starts once. -/
inductive Step (P : Terms) : TaskSession → TaskSession → Prop
  | make {t : TaskSession} (body : TaskBody) (hnew : t.made = false) (hidle : t.phase = .idle)
      (hmakes : P.Makes body) :
      Step P t { t with made := true, body := body }
  | start {t : TaskSession} (hidle : t.phase = .idle) (hmade : t.made = true)
      (honce : t.body.isRecurring = true ∨ .start ∉ t.exchanges) :
      Step P t { t with
        exchanges := t.exchanges ++ [.start]
        phase := .ready
        body := t.body.onStart }
  | request {t : TaskSession} (a : Surroundings) (happends : a.Appends) (txBuffer : List UInt8)
      (hroom : 2 ≤ txBuffer.length) (seq : AppSeqNum) (hready : t.phase = .ready)
      (hbuilt : (t.body.buildRequest a (.create txBuffer) seq).2.2 = true) :
      Step P t { t with
        exchanges := t.exchanges ++
          [.request (t.body.buildRequest a (.create txBuffer) seq).2.1.toRSlice]
        phase := .waiting seq
        body := (t.body.buildRequest a (.create txBuffer) seq).1 }
  | unbuilt {t : TaskSession} (a : Surroundings) (txBuffer : List UInt8) (seq : AppSeqNum)
      (hready : t.phase = .ready)
      (hbuilt : (t.body.buildRequest a (.create txBuffer) seq).2.2 = false) :
      Step P t { t with
        exchanges := t.exchanges ++ [.ended .failureInternalError]
        phase := .idle
        body := (t.body.buildRequest a (.create txBuffer) seq).1 }
  | response {t : TaskSession} (a : Surroundings) (header : APDUResponseHeader)
      (objects : List UInt8) (hwaiting : t.phase = .waiting header.control.SEQ)
      (hhanded : P.Hands t header objects) : Step P t (t.answer a header objects)
  | ended {t : TaskSession} (result : TaskCompletion) (hresult : result ≠ .success) :
      Step P t { t with exchanges := t.exchanges ++ [.ended result], phase := .idle }

/-- One step after the other. -/
abbrev Steps (P : Terms) : TaskSession → TaskSession → Prop := ReflTransGen (Step P)

/-- What every step keeps, steps keep. -/
theorem Steps.keeps {P : Terms} {I : TaskSession → Prop}
    (hstep : ∀ t t', Step P t t' → I t → I t') {t t' : TaskSession} (h : Steps P t t')
    (ht : I t) : I t' := by
  induction h with
  | refl => exact ht
  | tail _ hlast ih => exact hstep _ _ hlast ih

end TaskSession

namespace MContext

variable {P : TaskSession.Terms} {s s' s'' : MContext} {a : Surroundings} {ref active : TaskRef}

/-! ## The session of a task of a master -/

/-- What an entry says of a task. -/
def exchangeOf (ref : TaskRef) : Entry → Option Exchange
  | .taskStart ref' => if ref' = ref then some .start else none
  | .request ref' apdu => if ref' = ref then some (.request apdu) else none
  | .complete ref' result => if ref' = ref then some (.ended result) else none
  | _ => none

/-- The task is active and waits for a response with this header. -/
def Awaits (s : MContext) (ref : TaskRef) (header : APDUResponseHeader) : Prop :=
  header.function = .response ∧ s.tstate = .waitForResponse ∧ header.control.SEQ = s.solSeq ∧
    s.pActiveTask = some ref

instance (s : MContext) (ref : TaskRef) (header : APDUResponseHeader) :
    Decidable (s.Awaits ref header) := inferInstanceAs (Decidable (_ ∧ _))

/-- The response that an event hands to the task, if it does. -/
def responseFor (s : MContext) (ref : TaskRef) (e : Event) : List Exchange :=
  match e with
  | .receive apdu =>
    match APDUHeaderParser.parseResponse apdu with
    | some header =>
      if s.isOnline = true ∧ s.Awaits ref header then [.response header (apdu.drop 4)] else []
    | none => []
  | _ => []

/-- A master with what a task of it has exchanged. -/
structure Traced where
  context : MContext
  exchanges : List Exchange

/-- An event takes place, and what the task went through is added. -/
def Traced.step (ref : TaskRef) (t : Traced) (e : Event × Surroundings) : Traced where
  context := t.context.step e
  exchanges := t.exchanges ++ t.context.responseFor ref e.1 ++
    ((t.context.step e).log.drop t.context.log.length).filterMap (exchangeOf ref)

/-- The task has been made. -/
def isMade (s : MContext) : TaskRef → Bool
  | .bound n => n < s.boundTasks
  | .adhoc n => n < s.adhocTasks
  | _ => true

/-- What the task waits for. -/
def phase (s : MContext) (ref : TaskRef) : TaskPhase :=
  if s.pActiveTask = some ref then
    if s.tstate = .waitForResponse then .waiting s.solSeq else .ready
  else .idle

/-- What the master knows of a task. -/
def session (s : MContext) (ref : TaskRef) (exchanges : List Exchange) : TaskSession where
  made := s.isMade ref
  exchanges := exchanges
  phase := s.phase ref
  body := (s.tasks ref).body

/-- The session of the task that is traced. -/
def Traced.session (ref : TaskRef) (t : Traced) : TaskSession :=
  t.context.session ref t.exchanges

/-! ## Handlers as steps of a session -/

/-- The task is left where it is. -/
structure Still (ref : TaskRef) (s s' : MContext) : Prop where
  made : s'.isMade ref = s.isMade ref
  phase : s'.phase ref = s.phase ref
  body : (s'.tasks ref).body = (s.tasks ref).body
  log : ∃ entries, s'.log = s.log ++ entries ∧ entries.filterMap (exchangeOf ref) = []

theorem Still.refl (s : MContext) : Still ref s s := ⟨rfl, rfl, rfl, [], by simp, rfl⟩

theorem Still.trans (h : Still ref s s') (h' : Still ref s' s'') : Still ref s s'' where
  made := h'.made.trans h.made
  phase := h'.phase.trans h.phase
  body := h'.body.trans h.body
  log := by
    obtain ⟨entries, hlog, hnone⟩ := h.log
    obtain ⟨entries', hlog', hnone'⟩ := h'.log
    exact ⟨entries ++ entries', by rw [hlog', hlog, List.append_assoc],
      by rw [List.filterMap_append, hnone, hnone', List.append_nil]⟩

theorem Still.session (h : Still ref s s') (exchanges : List Exchange) :
    s'.session ref exchanges = s.session ref exchanges := by
  rw [MContext.session, MContext.session, h.made, h.phase, h.body]

/-- From the session a master goes on as the session does; `given` is the response that it was
handed, and the rest is what it has logged. -/
def Leads (P : TaskSession.Terms) (ref : TaskRef) (t : TaskSession) (given : List Exchange)
    (s s' : MContext) : Prop :=
  ∃ entries, s'.log = s.log ++ entries ∧
    TaskSession.Steps P t
      (s'.session ref (t.exchanges ++ given ++ entries.filterMap (exchangeOf ref)))

theorem Still.leads (h : Still ref s s') (exchanges : List Exchange) :
    Leads P ref (s.session ref exchanges) [] s s' := by
  obtain ⟨entries, hlog, hnone⟩ := h.log
  refine ⟨entries, hlog, ?_⟩
  rw [hnone, List.append_nil, List.append_nil, h.session]
  exact .refl

theorem Leads.still {t : TaskSession} {given : List Exchange} (h : Leads P ref t given s s')
    (h' : Still ref s' s'') : Leads P ref t given s s'' := by
  obtain ⟨entries, hlog, hsteps⟩ := h
  obtain ⟨entries', hlog', hnone⟩ := h'.log
  refine ⟨entries ++ entries', by rw [hlog', hlog, List.append_assoc], ?_⟩
  rw [List.filterMap_append, hnone, List.append_nil, h'.session]
  exact hsteps

/-- What happens to the task after it was left where it is. -/
theorem Still.then {exchanges : List Exchange} {given : List Exchange} (h : Still ref s s')
    (h' : Leads P ref (s'.session ref exchanges) given s' s'') :
    Leads P ref (s.session ref exchanges) given s s'' := by
  obtain ⟨entries, hlog, hnone⟩ := h.log
  obtain ⟨entries', hlog', hsteps⟩ := h'
  refine ⟨entries ++ entries', by rw [hlog', hlog, List.append_assoc], ?_⟩
  rw [List.filterMap_append, hnone, List.nil_append, ← h.session]
  exact hsteps

/-! ## Handlers that leave the task where it is -/

/-- The phase depends on the active task, the state and the sequence number. -/
theorem phase_congr (hactive : s'.pActiveTask = s.pActiveTask)
    (hsame : s.pActiveTask = some ref → s'.tstate = s.tstate ∧ s'.solSeq = s.solSeq) :
    s'.phase ref = s.phase ref := by
  unfold phase
  rw [hactive]
  split
  next h => rw [(hsame h).1, (hsame h).2]
  · rfl

theorem phase_ne (h : s.pActiveTask ≠ some ref) : s.phase ref = .idle := if_neg h

/-- Only what is on the side changes. -/
theorem still_of_same (hbound : s'.boundTasks = s.boundTasks)
    (hadhoc : s'.adhocTasks = s.adhocTasks) (hactive : s'.pActiveTask = s.pActiveTask)
    (htstate : s'.tstate = s.tstate) (hseq : s'.solSeq = s.solSeq)
    (hbody : (s'.tasks ref).body = (s.tasks ref).body) (entries : List Entry)
    (hlog : s'.log = s.log ++ entries) (hnone : entries.filterMap (exchangeOf ref) = []) :
    Still ref s s' where
  made := by cases ref <;> simp [isMade, hbound, hadhoc]
  phase := phase_congr hactive fun _ => ⟨htstate, hseq⟩
  body := hbody
  log := ⟨entries, hlog, hnone⟩

theorem still_checkConfirmTransmit (s : MContext) : Still ref s s.checkConfirmTransmit := by
  obtain h | ⟨id, confirm, _, _, _, _, h⟩ := checkConfirmTransmit_cases s
  · rw [h]
    exact .refl s
  · rw [h]
    exact still_of_same rfl rfl rfl rfl rfl rfl [.confirm id confirm] rfl rfl

theorem still_confirmIfAsked (s : MContext) (id : Nat) (header : APDUResponseHeader)
    (unsolicited : Bool) : Still ref s (s.confirmIfAsked id header unsolicited) := by
  unfold confirmIfAsked
  split
  · have hqueued : Still ref s { s with
        confirmQueue := s.confirmQueue ++ [(id, .confirm header.control.SEQ unsolicited)] } :=
      still_of_same rfl rfl rfl rfl rfl rfl [] (by simp) rfl
    exact hqueued.trans (still_checkConfirmTransmit _)
  · exact .refl s

theorem still_noteMeasurements (s : MContext) (id : Nat) (values : Measurements) :
    Still ref s (s.noteMeasurements id values) := by
  rcases noteMeasurements_cases s id values with h | h
  · rw [h]
    exact .refl s
  · rw [h]
    exact still_of_same rfl rfl rfl rfl rfl rfl [.measurements id values] rfl rfl

theorem still_noteReceived (s : MContext) (header : APDUResponseHeader) (objects : List UInt8) :
    Still ref s (s.noteReceived header objects) :=
  still_of_same rfl rfl rfl rfl rfl rfl [.received s.received header objects] rfl rfl

theorem body_update (task : IMasterTask) (hbody : task.body = (s.tasks active).body)
    (ref : TaskRef) : (Function.update s.tasks active task ref).body = (s.tasks ref).body := by
  by_cases heq : ref = active
  · subst heq
    simpa using hbody
  · simp [heq]

theorem still_demand (s : MContext) (demanded : TaskRef) : Still ref s (s.demand demanded) :=
  still_of_same rfl rfl rfl rfl rfl (body_update (s.tasks demanded).demand rfl ref)
    [.demand demanded] rfl rfl

theorem still_processIIN (s : MContext) (iin : IINField) : Still ref s (s.processIIN iin) := by
  unfold processIIN
  generalize demanded s.params iin = refs
  induction refs generalizing s with
  | nil => exact .refl s
  | cons active refs ih => exact (still_demand s active).trans (ih (s.demand active))

theorem filterMap_endEntries (task : IMasterTask) (active ref : TaskRef)
    (result : TaskCompletion) : (endEntries task active result).filterMap (exchangeOf ref) =
      if active = ref then [.ended result] else [] := by
  unfold endEntries
  cases task.body.completionCallback result <;>
    simp [exchangeOf, List.filterMap_cons] <;> split <;> simp_all

/-- The end of another task. -/
theorem still_endTask (s : MContext) (result : TaskCompletion) (hne : active ≠ ref) :
    Still ref s (s.endTask a active result) := by
  rw [endTask_eq]
  refine still_of_same rfl rfl rfl rfl rfl
    (body_update ((s.tasks active).complete result a.now) rfl ref) _ rfl ?_
  rw [filterMap_endEntries, if_neg hne]

theorem still_takeUnsolicited (s : MContext) (id : Nat) (header : APDUResponseHeader)
    (objects : List UInt8) : Still ref s (s.takeUnsolicited id header objects) := by
  unfold takeUnsolicited
  dsimp only
  split
  · exact (still_noteMeasurements _ id _).trans (still_confirmIfAsked _ id header true)
  · exact still_noteMeasurements _ id _

end MContext
end Master
end Dnp3
