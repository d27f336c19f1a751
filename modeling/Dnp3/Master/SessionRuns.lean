import Dnp3.Master.TaskSession

/-!
# Runs of the session of a task

Every event of a master is a few steps of the session of each of its tasks: a handler leaves the
task where it is, or leads its session on.  So what every step of a session keeps holds of each task
in every run of a master.

`Leads` relates two states of a master by what happens to the session of one task between them.  For
each handler there are two lemmas: one for the task it is about, and one for all others, whose
sessions it leaves as they are (`still_…`).  `Traced.always_steps` is what the module is for: in
every run of a master the session of each task is a run of `Master.TaskSession`, so a property of
tasks is proved for the few steps of a session and not for the many events of a master.
-/

namespace Dnp3
namespace Master
namespace MContext

open App Library Relation

variable {P : TaskSession.Terms} {s s' s'' : MContext} {a : Surroundings} {ref active : TaskRef}

/-! ## Ends of the active task -/

/-- The end of the active task, when it is another one. -/
theorem still_finish (hactive : s.pActiveTask = some active) (result : TaskCompletion)
    (hne : active ≠ ref) :
    Still ref s { (s.endTask a active result).completeActiveTask with tstate := .idle } := by
  obtain ⟨timer, hfinish⟩ := finish_eq (a := a) hactive result
  rw [hfinish]
  refine ⟨by cases ref <;> rfl, ?_, body_update ((s.tasks active).complete result a.now) rfl ref,
    _, rfl, ?_⟩
  · rw [phase_ne (by simp), phase_ne (by simpa [hactive] using hne)]
  · rw [filterMap_endEntries, if_neg hne]

/-- The end of the active task, when it is this one. -/
theorem session_finish (hactive : s.pActiveTask = some ref) (result : TaskCompletion) :
    ∃ entries,
      { (s.endTask a ref result).completeActiveTask with tstate := .idle }.log =
        s.log ++ entries ∧
      entries.filterMap (exchangeOf ref) = [.ended result] ∧
      ∀ exchanges,
        { (s.endTask a ref result).completeActiveTask with tstate := .idle }.session ref
            exchanges = ⟨s.isMade ref, exchanges, .idle, (s.tasks ref).body⟩ := by
  obtain ⟨timer, hfinish⟩ := finish_eq (a := a) hactive result
  rw [hfinish]
  refine ⟨endEntries (s.tasks ref) ref result, rfl, ?_, fun exchanges => ?_⟩
  · rw [filterMap_endEntries, if_pos rfl]
  · rw [session, phase_ne (by simp)]
    have hbody := body_update ((s.tasks ref).complete result a.now) rfl ref
    have hmade : s.isMade ref = s.isMade ref := rfl
    simp only [TaskSession.mk.injEq, true_and]
    exact ⟨by cases ref <;> rfl, hbody⟩

/-! ## The next request -/

/-- The next request of another task. -/
theorem still_resumeActiveTask (hactive : s.pActiveTask = some active) (hne : active ≠ ref) :
    Still ref s (s.resumeActiveTask a) := by
  have hidle : s.phase ref = .idle := phase_ne (by simpa [hactive] using hne)
  unfold resumeActiveTask
  split
  · rw [hactive]
    dsimp only
    have hbody (task : IMasterTask) :
        (Function.update s.tasks active task ref).body = (s.tasks ref).body := by
      rw [Function.update_of_ne hne.symm]
    split
    · refine ⟨by cases ref <;> rfl, ?_, hbody _, [.request active _], rfl, ?_⟩
      · rw [hidle, phase_ne]
        simpa [transmit, startResponseTimer, hactive] using hne
      · simp [exchangeOf, hne]
    · set s₁ : MContext := { s.setTask active { s.tasks active with
          body := ((s.tasks active).body.buildRequest a (.create s.txBuffer) s.solSeq).1 } with
        txBuffer := ((s.tasks active).body.buildRequest a (.create s.txBuffer)
          s.solSeq).2.1.slice.mem }
      have hbuilt : Still ref s s₁ :=
        still_of_same rfl rfl rfl rfl rfl (hbody _) [] (List.append_nil _).symm rfl
      have hactive₁ : s₁.pActiveTask = some active := hactive
      exact hbuilt.trans (still_finish hactive₁ .failureInternalError hne)
  · refine ⟨by cases ref <;> rfl, ?_, rfl, [], (List.append_nil _).symm, rfl⟩
    rw [hidle, phase_ne (by simpa [hactive] using hne)]

/-- This task stays ready. -/
theorem leads_ready (hactive : s.pActiveTask = some ref) (exchanges : List Exchange) :
    Leads P ref ⟨s.isMade ref, exchanges, .ready, (s.tasks ref).body⟩ [] s
      { s with tstate := .taskReady } := by
  have hready : { s with tstate := TaskState.taskReady }.session ref exchanges =
      ⟨s.isMade ref, exchanges, .ready, (s.tasks ref).body⟩ := by
    simp only [session, phase, hactive, if_true, reduceCtorEq, if_false]
    congr 1
  refine ⟨[], (List.append_nil _).symm, ?_⟩
  rw [List.filterMap_nil, List.append_nil, List.append_nil, hready]

/-- The next request of this task, which is ready. -/
theorem leads_resumeActiveTask (happends : a.Appends) (hroom : 2 ≤ s.room)
    (hactive : s.pActiveTask = some ref) (exchanges : List Exchange) :
    Leads P ref ⟨s.isMade ref, exchanges, .ready, (s.tasks ref).body⟩ [] s
      (s.resumeActiveTask a) := by
  unfold resumeActiveTask
  split
  · rw [hactive]
    dsimp only
    set built := (s.tasks ref).body.buildRequest a (.create s.txBuffer) s.solSeq with hbuilt
    split
    next hok =>
      refine ⟨[.request ref built.2.1.toRSlice], rfl, ReflTransGen.single ?_⟩
      have hstep := TaskSession.Step.request (P := P)
        (t := ⟨s.isMade ref, exchanges, .ready, (s.tasks ref).body⟩) a happends s.txBuffer hroom
        s.solSeq rfl hok
      refine Eq.subst (motive := TaskSession.Step P _) ?_ hstep
      simp [session, phase, transmit, startResponseTimer, hactive, exchangeOf, hbuilt, isMade]
    next hok =>
      obtain ⟨entries, hlog, hended, hsession⟩ := session_finish (a := a) (s :=
        { s with
          tasks := Function.update s.tasks ref { s.tasks ref with body := built.1 }
          txBuffer := built.2.1.slice.mem }) hactive .failureInternalError
      refine ⟨entries, hlog, ReflTransGen.single ?_⟩
      have hstep := TaskSession.Step.unbuilt (P := P)
        (t := ⟨s.isMade ref, exchanges, .ready, (s.tasks ref).body⟩) a s.txBuffer s.solSeq rfl
        (by simpa using hok)
      refine Eq.subst (motive := TaskSession.Step P _) ?_ hstep
      simp only [setTask_eq]
      rw [hsession, hended, List.append_nil]
      simp [hbuilt, isMade]
  · exact leads_ready hactive exchanges

theorem still_startTaskReady (hactive : s.pActiveTask = some active) (hne : active ≠ ref) :
    Still ref s (s.startTaskReady a) := by
  unfold startTaskReady
  split
  · refine ⟨by cases ref <;> rfl, ?_, rfl, [], (List.append_nil _).symm, rfl⟩
    rw [phase_ne (by simpa [hactive] using hne), phase_ne (by simpa [hactive] using hne)]
  · exact still_resumeActiveTask hactive hne

theorem leads_startTaskReady (happends : a.Appends) (hroom : 2 ≤ s.room)
    (hactive : s.pActiveTask = some ref) (exchanges : List Exchange) :
    Leads P ref ⟨s.isMade ref, exchanges, .ready, (s.tasks ref).body⟩ [] s
      (s.startTaskReady a) := by
  unfold startTaskReady
  split
  · exact leads_ready hactive exchanges
  · exact leads_resumeActiveTask happends hroom hactive exchanges

/-- What the task has done, and then what follows. -/
theorem Leads.of_steps {t t' : TaskSession} {given : List Exchange} {entries : List Entry}
    (hsteps : TaskSession.Steps P t t') (hlog : s'.log = s.log ++ entries)
    (hexchanges : t'.exchanges = t.exchanges ++ given ++ entries.filterMap (exchangeOf ref))
    (h : Leads P ref t' [] s' s'') : Leads P ref t given s s'' := by
  obtain ⟨entries', hlog', hsteps'⟩ := h
  refine ⟨entries ++ entries', by rw [hlog', hlog, List.append_assoc], hsteps.trans ?_⟩
  rw [hexchanges, List.append_nil, List.append_assoc, ← List.filterMap_append] at hsteps'
  exact hsteps'

/-- What the master has done, and then what it does whatever has passed before. -/
theorem Leads.then {t : TaskSession} {given : List Exchange} (h : Leads P ref t given s s')
    (h' : ∀ exchanges, Leads P ref (s'.session ref exchanges) [] s' s'') :
    Leads P ref t given s s'' := by
  obtain ⟨entries, hlog, hsteps⟩ := h
  exact Leads.of_steps hsteps hlog rfl (h' _)

theorem phase_none (hidle : s.pActiveTask = none) : s.phase ref = .idle :=
  phase_ne (by simp [hidle])

/-- A task starts. -/
theorem leads_beginNewTask (happends : a.Appends) (hroom : 2 ≤ s.room)
    (hidle : s.pActiveTask = none) {next : TaskRef} (rest : List TaskRef)
    {exchanges : List Exchange} (hstartable : next = ref → s.isMade ref = true ∧
      ((s.tasks ref).body.isRecurring = true ∨ .start ∉ exchanges)) :
    Leads P ref (s.session ref exchanges) [] s (s.beginNewTask a next rest) := by
  have hactive : (s.started next rest).pActiveTask = some next := rfl
  have hlog : (s.started next rest).log = s.log ++ [Entry.taskStart next] := rfl
  by_cases heq : next = ref
  · subst heq
    have hstep := TaskSession.Step.start (P := P) (t := s.session next exchanges)
      (phase_none hidle) (hstartable rfl).1 (hstartable rfl).2
    refine Leads.of_steps (ReflTransGen.single hstep) hlog (by simp [exchangeOf, session]) ?_
    have hroom₁ : 2 ≤ (s.started next rest).room := hroom
    have hresumed := leads_resumeActiveTask (P := P) happends hroom₁ hactive
      (exchanges ++ [Exchange.start])
    have hmade : (s.started next rest).isMade next = s.isMade next := by cases next <;> rfl
    have hbody : ((s.started next rest).tasks next).body = (s.tasks next).body.onStart := by
      simp [started, IMasterTask.start]
    rw [hmade, hbody] at hresumed
    exact hresumed
  · have hstarted : Still ref s (s.started next rest) := by
      refine ⟨by cases ref <;> rfl, ?_, ?_, _, hlog, by simp [exchangeOf, heq]⟩
      · rw [phase_none hidle, phase_ne (by simpa [hactive] using heq)]
      · simp [started, Function.update_of_ne (Ne.symm heq)]
    exact (hstarted.trans (still_resumeActiveTask hactive heq)).leads exchanges

/-- Looking for a task. -/
theorem Phased.leads_checkForTask (h : s.Phased) (happends : a.Appends) (hroom : 2 ≤ s.room)
    {exchanges : List Exchange}
    (hstartable : ref ∈ s.scheduler → s.isMade ref = true ∧
      ((s.tasks ref).body.isRecurring = true ∨ .start ∉ exchanges)) :
    Leads P ref (s.session ref exchanges) [] s (s.checkForTask a) := by
  have hrefl : Leads P ref (s.session ref exchanges) [] s s := (Still.refl s).leads exchanges
  unfold MContext.checkForTask
  split
  · split
    next hidle =>
      have hnone := h.idle_iff.mp hidle
      unfold startTaskIdle
      split
      · exact hrefl
      · split
        next next rest hnext =>
          refine leads_beginNewTask happends hroom hnone rest fun heq => hstartable ?_
          rw [← heq, (MasterScheduler.getNext_start_perm hnext).symm.mem_iff]
          exact List.mem_cons_self
        · exact Still.leads (still_of_same rfl rfl rfl rfl rfl rfl [] (List.append_nil _).symm rfl)
            exchanges
    next hready =>
      obtain ⟨active, hactive⟩ := h.active (by simp [hready])
      by_cases heq : active = ref
      · subst heq
        have hsession : s.session active exchanges =
            ⟨s.isMade active, exchanges, .ready, (s.tasks active).body⟩ := by
          simp [session, phase, hactive, hready]
        rw [hsession]
        exact leads_startTaskReady happends hroom hactive exchanges
      · exact (still_startTaskReady hactive heq).leads exchanges
    · exact hrefl
  · exact hrefl

/-! ## Responses -/

theorem confirmIfAsked_eq (s : MContext) (id : Nat) (header : APDUResponseHeader)
    (unsolicited : Bool) (ref : TaskRef) : ∃ sending mem queue entries,
    s.confirmIfAsked id header unsolicited =
      { s with
        isSending := sending
        txBuffer := mem
        confirmQueue := queue
        log := s.log ++ entries } ∧
    entries.filterMap (exchangeOf ref) = [] := by
  unfold confirmIfAsked
  split
  · unfold queueConfirm
    obtain h | ⟨id', confirm, queue, mem, _, _, h⟩ := checkConfirmTransmit_cases
        { s with confirmQueue := s.confirmQueue ++ [(id, .confirm header.control.SEQ unsolicited)] }
    · exact ⟨s.isSending, s.txBuffer, _, [], by rw [h, List.append_nil], rfl⟩
    · exact ⟨true, mem, queue, [.confirm id' confirm], by rw [h], rfl⟩
  · exact ⟨s.isSending, s.txBuffer, s.confirmQueue, [], by simp, rfl⟩

theorem answered_eq (s : MContext) (a : Surroundings) (active : TaskRef) (id : Nat)
    (header : APDUResponseHeader) (objects : List UInt8) (ref : TaskRef) : ∃ entries,
    s.answered a active id header objects =
      { s with
        responseTimer := none
        solSeq := s.solSeq + 1
        tasks := Function.update s.tasks active
          { s.tasks active with
            body := ((s.tasks active).body.processResponse a header objects).1 }
        log := s.log ++ entries } ∧
    entries.filterMap (exchangeOf ref) = [] := by
  unfold answered
  dsimp only
  obtain h | h := noteMeasurements_cases
    ({ s with responseTimer := none, solSeq := s.solSeq + 1 }.setTask active
      { s.tasks active with body := ((s.tasks active).body.processResponse a header objects).1 })
    id ((s.tasks active).body.processResponse a header objects).2.2
  · exact ⟨[], by rw [h]; simp, rfl⟩
  · exact ⟨[.measurements id _], by rw [h]; rfl, rfl⟩

/-- A response to another task. -/
theorem still_onResponseWaitForResponse (hactive : s.pActiveTask = some active)
    (hne : active ≠ ref) (id : Nat) (header : APDUResponseHeader) (objects : List UInt8) :
    Still ref s (s.onResponseWaitForResponse a id header objects) := by
  by_cases hseq : header.control.SEQ = s.solSeq
  · rw [onResponseWaitForResponse_eq hactive id hseq]
    have hactive₁ : (s.answered a active id header objects).pActiveTask = some active :=
      (answered_pActiveTask ..).trans hactive
    have hanswered : Still ref s (s.answered a active id header objects) := by
      obtain ⟨entries, h, hnone⟩ := answered_eq s a active id header objects ref
      rw [h]
      refine ⟨by cases ref <;> rfl, ?_, by simp [Function.update_of_ne hne.symm], entries, rfl,
        hnone⟩
      rw [phase_ne (by simpa [hactive] using hne), phase_ne (by simpa [hactive] using hne)]
    have hconfirmed : Still ref (s.answered a active id header objects)
        ((s.answered a active id header objects).confirmIfAsked id header false) :=
      still_confirmIfAsked _ id header false
    have hends (completion : TaskCompletion) : Still ref s
        { (((s.answered a active id header objects).endTask a active completion).confirmIfAsked id
          header false).completeActiveTask with tstate := .idle } := by
      rw [completeActiveTask_confirmIfAsked]
      refine (hanswered.trans (still_finish (a := a) hactive₁ completion hne)).trans ?_
      obtain ⟨sending, mem, queue, entries, h, hnone⟩ := confirmIfAsked_eq
        ((s.answered a active id header objects).endTask a active completion).completeActiveTask
        id header false ref
      rw [h]
      exact still_of_same rfl rfl rfl rfl rfl rfl entries rfl hnone
    have hactive₂ : ((s.answered a active id header objects).confirmIfAsked id header
        false).pActiveTask = some active :=
      (steady_confirmIfAsked _ id header false).pActiveTask.trans hactive₁
    dsimp only
    cases ((s.tasks active).body.processResponse a header objects).2.1 with
    | okContinue =>
      exact (hanswered.trans hconfirmed).trans
        (still_of_same rfl rfl rfl rfl rfl rfl [] (List.append_nil _).symm rfl)
    | okRepeat => exact (hanswered.trans hconfirmed).trans (still_startTaskReady hactive₂ hne)
    | okFinal => exact hends .success
    | errorBadResponse => exact hends .failureBadResponse
    | errorInternalFailure => exact hends .failureInternalError
  · simp only [onResponseWaitForResponse, hactive, ne_eq, hseq, not_false_eq_true, if_true]
    exact .refl s

/-- A response to this task, which waits for it. -/
theorem leads_onResponseWaitForResponse (happends : a.Appends) (hroom : 2 ≤ s.room)
    (hactive : s.pActiveTask = some ref) (hwaiting : s.tstate = .waitForResponse) (id : Nat)
    {header : APDUResponseHeader}
    (hseq : header.control.SEQ = s.solSeq) (objects : List UInt8) (exchanges : List Exchange)
    (hhanded : P.Hands (s.session ref exchanges) header objects) :
    Leads P ref (s.session ref exchanges) [.response header objects] s
      (s.onResponseWaitForResponse a id header objects) := by
  have hphase : s.phase ref = .waiting header.control.SEQ := by
    simp [phase, hactive, hwaiting, hseq]
  have hstep : TaskSession.Steps P (s.session ref exchanges)
      ((s.session ref exchanges).answer a header objects) :=
    ReflTransGen.single (.response a header objects hphase hhanded)
  obtain ⟨measured, hanswered, hnone⟩ := answered_eq s a ref id header objects ref
  have hactive₁ : (s.answered a ref id header objects).pActiveTask = some ref :=
    (answered_pActiveTask ..).trans hactive
  have hmade : (s.answered a ref id header objects).isMade ref = s.isMade ref := by
    rw [hanswered]
    cases ref <;> rfl
  have hbody : ((s.answered a ref id header objects).tasks ref).body =
      ((s.tasks ref).body.processResponse a header objects).1 := by
    rw [hanswered]
    simp
  have hlog : (s.answered a ref id header objects).log = s.log ++ measured := by rw [hanswered]
  have hconfirmed : Still ref (s.answered a ref id header objects)
      ((s.answered a ref id header objects).confirmIfAsked id header false) :=
    still_confirmIfAsked _ id header false
  have hactive₂ : ((s.answered a ref id header objects).confirmIfAsked id header
      false).pActiveTask = some ref :=
    (steady_confirmIfAsked _ id header false).pActiveTask.trans hactive₁
  -- the task ends with the response, which is confirmed afterwards
  have hends (completion : TaskCompletion)
      (hresult : ((s.tasks ref).body.processResponse a header objects).2.1.completion =
        some completion)
      (hidle : ((s.tasks ref).body.processResponse a header objects).2.1.nextPhase
        header.control.SEQ = .idle) :
      Leads P ref (s.session ref exchanges) [.response header objects] s
        { (((s.answered a ref id header objects).endTask a ref completion).confirmIfAsked id
          header false).completeActiveTask with tstate := .idle } := by
    rw [completeActiveTask_confirmIfAsked]
    obtain ⟨ended, hlogEnded, hcompleted, hsession⟩ :=
      session_finish (a := a) hactive₁ completion
    obtain ⟨sending, mem, queue, confirms, hconfirm, hsilent⟩ := confirmIfAsked_eq
      ((s.answered a ref id header objects).endTask a ref completion).completeActiveTask
      id header false ref
    have hanswer : (s.session ref exchanges).answer a header objects =
        ⟨s.isMade ref,
          exchanges ++ [Exchange.response header objects] ++ [Exchange.ended completion], .idle,
          ((s.tasks ref).body.processResponse a header objects).1⟩ := by
      simp [TaskSession.answer, session, hresult, hidle]
    have hfinished : Leads P ref (s.session ref exchanges) [.response header objects] s
        { ((s.answered a ref id header objects).endTask a ref completion).completeActiveTask with
          tstate := .idle } := by
      refine ⟨measured ++ ended, by rw [hlogEnded, hlog, List.append_assoc], ?_⟩
      rw [List.filterMap_append, hnone, List.nil_append, hcompleted, hsession, hmade, hbody]
      rw [hanswer] at hstep
      exact hstep
    refine hfinished.still ?_
    rw [hconfirm]
    exact still_of_same rfl rfl rfl rfl rfl rfl confirms rfl hsilent
  -- the task goes on
  have hgoes (phase : TaskPhase)
      (hresult : ((s.tasks ref).body.processResponse a header objects).2.1.completion = none)
      (hphase : ((s.tasks ref).body.processResponse a header objects).2.1.nextPhase
        header.control.SEQ = phase) {s' : MContext}
      (h : Leads P ref ⟨s.isMade ref, exchanges ++ [Exchange.response header objects], phase,
        ((s.tasks ref).body.processResponse a header objects).1⟩ []
        (s.answered a ref id header objects) s') :
      Leads P ref (s.session ref exchanges) [.response header objects] s s' := by
    have hanswer : (s.session ref exchanges).answer a header objects =
        ⟨s.isMade ref, exchanges ++ [Exchange.response header objects], phase,
          ((s.tasks ref).body.processResponse a header objects).1⟩ := by
      simp [TaskSession.answer, session, hresult, hphase]
    refine Leads.of_steps hstep hlog ?_ (hanswer ▸ h)
    rw [hanswer, hnone, List.append_nil]
    rfl
  rw [onResponseWaitForResponse_eq hactive id hseq]
  dsimp only
  cases hresult : ((s.tasks ref).body.processResponse a header objects).2.1 with
  | okContinue =>
    refine hgoes (.waiting (s.solSeq + 1)) (by rw [hresult]; rfl) (by rw [hresult, hseq]; rfl) ?_
    have hwaits : (s.answered a ref id header objects).session ref
        (exchanges ++ [Exchange.response header objects]) =
          ⟨s.isMade ref, exchanges ++ [Exchange.response header objects], .waiting (s.solSeq + 1),
            ((s.tasks ref).body.processResponse a header objects).1⟩ := by
      rw [session, hmade, hbody, hanswered]
      simp [phase, hactive, hwaiting]
    rw [← hwaits]
    refine Still.leads (hconfirmed.trans ?_) _
    exact still_of_same rfl rfl rfl rfl rfl rfl [] (List.append_nil _).symm rfl
  | okRepeat =>
    refine hgoes .ready (by rw [hresult]; rfl) (by rw [hresult]; rfl) ?_
    obtain ⟨sending, mem, queue, confirms, hconfirm, hsilent⟩ := confirmIfAsked_eq
      (s.answered a ref id header objects) id header false ref
    have hroom₂ : 2 ≤ ((s.answered a ref id header objects).confirmIfAsked id header
        false).room := by
      rw [room_confirmIfAsked, answered, room_noteMeasurements]
      exact hroom
    have hready := leads_startTaskReady (P := P) happends hroom₂ hactive₂
      (exchanges ++ [Exchange.response header objects])
    rw [hconfirmed.made, hconfirmed.body, hmade, hbody] at hready
    have hlogConfirm : ((s.answered a ref id header objects).confirmIfAsked id header false).log =
        (s.answered a ref id header objects).log ++ confirms := by rw [hconfirm]
    refine Leads.of_steps .refl hlogConfirm ?_ hready
    rw [hsilent, List.append_nil, List.append_nil]
  | okFinal => exact hends .success (by rw [hresult]; rfl) (by rw [hresult]; rfl)
  | errorBadResponse =>
    exact hends .failureBadResponse (by rw [hresult]; rfl) (by rw [hresult]; rfl)
  | errorInternalFailure =>
    exact hends .failureInternalError (by rw [hresult]; rfl) (by rw [hresult]; rfl)

/-- What a response does to the task. -/
theorem Settled.leads_respondedTo (h : s.Settled) (happends : a.Appends) (hroom : 2 ≤ s.room)
    (id : Nat) {header : APDUResponseHeader}
    {objects : List UInt8} (hresponded : s.respondedTo a id header objects = some s')
    (exchanges : List Exchange)
    (hhanded : s.Awaits ref header → P.Hands (s.session ref exchanges) header objects) :
    Leads P ref (s.session ref exchanges)
      (if s.Awaits ref header then [.response header objects] else []) s s' := by
  unfold respondedTo at hresponded
  split at hresponded
  next hfunction =>
    have hnot : ¬ s.Awaits ref header := by simp [Awaits, hfunction]
    rw [if_neg hnot]
    split at hresponded
    · cases hresponded
      exact (still_takeUnsolicited s id header objects).leads exchanges
    · cases hresponded
  next hfunction =>
    cases hresponded
    unfold onResponseEvent
    by_cases hwaiting : s.tstate = .waitForResponse
    · rw [hwaiting]
      obtain ⟨active, hactive⟩ := h.active (by simp [hwaiting])
      by_cases heq : active = ref
      · subst heq
        by_cases hseq : header.control.SEQ = s.solSeq
        · rw [if_pos ⟨hfunction, hwaiting, hseq, hactive⟩]
          exact leads_onResponseWaitForResponse happends hroom hactive hwaiting id hseq objects
            exchanges (hhanded ⟨hfunction, hwaiting, hseq, hactive⟩)
        · have hnot : ¬ s.Awaits active header := fun hawaits => hseq hawaits.2.2.1
          rw [if_neg hnot]
          simp only [onResponseWaitForResponse, hactive, ne_eq, hseq, not_false_eq_true, if_true]
          exact (Still.refl s).leads exchanges
      · have hnot : ¬ s.Awaits ref header := by simp [Awaits, hactive, heq]
        rw [if_neg hnot]
        exact (still_onResponseWaitForResponse hactive heq id header objects).leads exchanges
    · have hnot : ¬ s.Awaits ref header := fun hawaits => hwaiting hawaits.2.1
      rw [if_neg hnot]
      have hleft : Leads P ref (s.session ref exchanges) [] s s := (Still.refl s).leads exchanges
      cases htstate : s.tstate with
      | idle => exact hleft
      | taskReady => exact hleft
      | waitForResponse => exact absurd htstate hwaiting
  · cases hresponded

theorem Settled.leads_onReceive (h : s.Settled) (happends : a.Appends) (hroom : 2 ≤ s.room)
    (apdu : List UInt8) (exchanges : List Exchange)
    (hhanded : ∀ header objects, .response header objects ∈ s.responseFor ref (.receive apdu) →
      P.Hands (s.session ref exchanges) header objects) :
    Leads P ref (s.session ref exchanges) (s.responseFor ref (.receive apdu)) s
      (s.onReceive a apdu) := by
  have hrefl : Leads P ref (s.session ref exchanges) [] s s := (Still.refl s).leads exchanges
  unfold MContext.onReceive
  unfold responseFor at hhanded ⊢
  dsimp only at hhanded ⊢
  cases hparse : APDUHeaderParser.parseResponse apdu with
  | none => simpa using hrefl
  | some header =>
    rw [hparse] at hhanded
    dsimp only at hhanded ⊢
    by_cases honline : s.isOnline = true
    · simp only [honline, true_and, if_true] at hhanded ⊢
      set s₁ := s.noteReceived header (apdu.drop 4) with hs₁
      have hnoted : Still ref s s₁ := still_noteReceived s header (apdu.drop 4)
      have hsettled : s₁.Settled := h.steady (by constructor <;> rfl) rfl fun _ => rfl
      have hroom₁ : 2 ≤ s₁.room := hroom
      have hawaits₁ : s₁.Awaits ref header ↔ s.Awaits ref header := Iff.rfl
      rw [processAPDU_eq]
      cases hresponded : s₁.respondedTo a s.received header (apdu.drop 4) with
      | none =>
        have hnot : ¬ s.Awaits ref header := by
          rintro ⟨hfunction, -⟩
          simp [respondedTo, hfunction] at hresponded
        rw [if_neg hnot]
        exact hnoted.leads exchanges
      | some s₂ =>
        have hled : Leads P ref (s₁.session ref exchanges)
            (if s₁.Awaits ref header then [.response header (apdu.drop 4)] else []) s₁ s₂ := by
          refine hsettled.leads_respondedTo happends hroom₁ s.received hresponded exchanges ?_
          intro hawaits
          rw [hnoted.session]
          exact hhanded header _ (by simp [hawaits₁.mp hawaits])
        exact (hnoted.then hled).still (still_processIIN s₂ header.IIN)
    · simp only [honline, Bool.false_eq_true, false_and, if_false]
      exact hrefl

/-! ## The other events -/

/-- The task has ended without success. -/
theorem leads_ended {result : TaskCompletion} (hresult : result ≠ .success)
    (hmade : s'.isMade ref = s.isMade ref) (hphase : s'.phase ref = .idle)
    (hbody : (s'.tasks ref).body = (s.tasks ref).body) {entries : List Entry}
    (hlog : s'.log = s.log ++ entries)
    (hended : entries.filterMap (exchangeOf ref) = [.ended result]) (exchanges : List Exchange) :
    Leads P ref (s.session ref exchanges) [] s s' := by
  have hstep := TaskSession.Step.ended (P := P) (t := s.session ref exchanges) result hresult
  refine ⟨entries, hlog, ReflTransGen.single ?_⟩
  have hsession : s'.session ref (exchanges ++ [Exchange.ended result]) =
      { s.session ref exchanges with
        exchanges := exchanges ++ [Exchange.ended result]
        phase := .idle } := by
    simp only [session, hmade, hphase, hbody]
  rw [hended, List.append_nil]
  exact hsession ▸ hstep

theorem leads_onResponseTimeoutWaitForResponse (hactive : s.pActiveTask = some active)
    (exchanges : List Exchange) :
    Leads P ref (s.session ref exchanges) [] s (s.onResponseTimeoutWaitForResponse a) := by
  have hnone : (s.onResponseTimeoutWaitForResponse a).pActiveTask = none := by
    unfold onResponseTimeoutWaitForResponse
    simp only [hactive, endTask_eq, completeActiveTask]
    split <;> rfl
  have hlog := log_onResponseTimeoutWaitForResponse a hactive
  have hmade : (s.onResponseTimeoutWaitForResponse a).isMade ref = s.isMade ref := by
    unfold onResponseTimeoutWaitForResponse
    simp only [hactive, endTask_eq, completeActiveTask]
    split <;> cases ref <;> rfl
  have hbody : ((s.onResponseTimeoutWaitForResponse a).tasks ref).body = (s.tasks ref).body := by
    have hupdate := body_update
      ((s.tasks active).complete .failureResponseTimeout a.now) rfl ref
    unfold onResponseTimeoutWaitForResponse
    simp only [hactive, endTask_eq, completeActiveTask]
    split <;> exact hupdate
  have hended := filterMap_endEntries (s.tasks active) active ref .failureResponseTimeout
  by_cases heq : active = ref
  · rw [if_pos heq] at hended
    exact leads_ended (by decide) hmade (phase_none hnone) hbody hlog hended exchanges
  · rw [if_neg heq] at hended
    refine Still.leads ⟨hmade, ?_, hbody, _, hlog, hended⟩ exchanges
    rw [phase_none hnone, phase_ne (by simpa [hactive] using heq)]

theorem Settled.leads_responseTimeout (h : s.Settled) (exchanges : List Exchange) :
    Leads P ref (s.session ref exchanges) [] s
      ({ s with responseTimer := none }.onResponseTimeout a) := by
  have hstopped : Still ref s { s with responseTimer := none } :=
    still_of_same rfl rfl rfl rfl rfl rfl [] (List.append_nil _).symm rfl
  have hrefl := hstopped.leads (P := P) exchanges
  unfold MContext.onResponseTimeout
  split
  · split
    next hwaiting =>
      have hwaiting : s.tstate = .waitForResponse := hwaiting
      obtain ⟨active, hactive⟩ := h.active (by simp [hwaiting])
      have hactive₁ : { s with responseTimer := none }.pActiveTask = some active := hactive
      exact hstopped.then (leads_onResponseTimeoutWaitForResponse hactive₁ exchanges)
    · exact hrefl
  · exact hrefl

theorem leads_wentDown (exchanges : List Exchange) :
    Leads P ref (s.session ref exchanges) [] s (s.wentDown a) := by
  have hphase : (s.wentDown a).phase ref = .idle := phase_none rfl
  cases hactive : s.pActiveTask with
  | none =>
    refine Still.leads ⟨?_, ?_, ?_, [.down], ?_, rfl⟩ exchanges
    · unfold MContext.wentDown
      rw [cutOff_none hactive]
      cases ref <;> rfl
    · rw [hphase, phase_none hactive]
    · exact body_cutOff s a ref
    · rw [MContext.wentDown, cutOff_none hactive]
      rfl
  | some active =>
    have hlog : (s.wentDown a).log =
        s.log ++ (endEntries (s.tasks active) active .failureNoComms ++ [Entry.down]) := by
      rw [MContext.wentDown, note_eq, ← List.append_assoc, ← log_cutOff hactive]
    have hmade : (s.wentDown a).isMade ref = s.isMade ref := by
      unfold MContext.wentDown cutOff
      simp only [hactive, endTask_eq]
      cases ref <;> rfl
    have hentries : (endEntries (s.tasks active) active .failureNoComms ++ [Entry.down]).filterMap
        (exchangeOf ref) = if active = ref then [.ended .failureNoComms] else [] := by
      rw [List.filterMap_append, filterMap_endEntries]
      exact List.append_nil _
    by_cases heq : active = ref
    · rw [if_pos heq] at hentries
      exact leads_ended (by decide) hmade hphase (body_cutOff s a ref) hlog hentries exchanges
    · rw [if_neg heq] at hentries
      refine Still.leads ⟨hmade, ?_, body_cutOff s a ref, _, hlog, hentries⟩ exchanges
      rw [hphase, phase_ne (by simpa [hactive] using heq)]

theorem still_wentUp (s : MContext) : Still ref s s.wentUp := by
  obtain ⟨timer, h⟩ := wentUp_eq s
  rw [h]
  exact still_of_same rfl rfl rfl rfl rfl rfl [.up] rfl rfl

/-- A task that is not active ends. -/
theorem leads_endTask (hinactive : s.pActiveTask ≠ some ref) (result : TaskCompletion)
    (hresult : result ≠ .success) (active : TaskRef) (exchanges : List Exchange) :
    Leads P ref (s.session ref exchanges) [] s (s.endTask a active result) := by
  by_cases heq : active = ref
  · have hended := filterMap_endEntries (s.tasks active) active ref result
    rw [if_pos heq] at hended
    rw [endTask_eq]
    refine leads_ended hresult ?_ ?_ ?_ rfl hended exchanges
    · cases ref <;> rfl
    · exact phase_ne hinactive
    · exact body_update ((s.tasks active).complete result a.now) rfl ref
  · exact (still_endTask s result heq).leads exchanges

/-- What a timeout of the scheduler does to the tasks that wait. -/
theorem leads_checkTaskStartTimeout (hinactive : ref ∈ s.scheduler → s.isTimedOut a ref = true →
    s.pActiveTask ≠ some ref) (exchanges : List Exchange) :
    Leads P ref (s.session ref exchanges) [] s (s.checkTaskStartTimeout a) := by
  have hfold (refs : List TaskRef) (s : MContext) (exchanges : List Exchange)
      (hinactive : ref ∈ refs → s.pActiveTask ≠ some ref) :
      Leads P ref (s.session ref exchanges) [] s
        (refs.foldl (fun s ref => s.endTask a ref .failureStartTimeout) s) := by
    induction refs generalizing s exchanges with
    | nil => exact (Still.refl s).leads exchanges
    | cons active refs ih =>
      have hactive : (s.endTask a active .failureStartTimeout).pActiveTask = s.pActiveTask := by
        rw [endTask_eq]
      refine Leads.then ?_ fun exchanges => ih _ exchanges ?_
      · by_cases heq : active = ref
        · exact leads_endTask (hinactive (by simp [heq])) _ (by decide) active exchanges
        · exact (still_endTask s _ heq).leads exchanges
      · intro hmem
        rw [hactive]
        exact hinactive (by simp [hmem])
  have hended := hfold (s.scheduler.filter (s.isTimedOut a)) s exchanges fun hmem =>
    hinactive (List.mem_filter.mp hmem).1 (List.mem_filter.mp hmem).2
  refine hended.still ?_
  exact still_of_same rfl rfl rfl rfl rfl rfl [] (List.append_nil _).symm rfl

/-! ## New tasks -/

/-- A new task is made, which is not active. -/
theorem leads_made {entries : List Entry} (hmakes : P.Makes (s'.tasks ref).body)
    (hnew : s.isMade ref = false)
    (hmade : s'.isMade ref = true) (hinactive : s.pActiveTask ≠ some ref)
    (hactive : s'.pActiveTask = s.pActiveTask) (hlog : s'.log = s.log ++ entries)
    (hnone : entries.filterMap (exchangeOf ref) = []) (exchanges : List Exchange) :
    Leads P ref (s.session ref exchanges) [] s s' := by
  have hidle : s.phase ref = .idle := phase_ne hinactive
  have hstep := TaskSession.Step.make (P := P) (t := s.session ref exchanges) (s'.tasks ref).body
    hnew hidle hmakes
  have hidle' : s'.phase ref = .idle := phase_ne (hactive ▸ hinactive)
  have hsession : s'.session ref exchanges =
      { s.session ref exchanges with made := true, body := (s'.tasks ref).body } := by
    simp only [session, hmade, hidle, hidle']
  refine ⟨entries, hlog, ReflTransGen.single ?_⟩
  rw [hnone, List.append_nil, List.append_nil]
  exact hsession ▸ hstep

/-- A task that is held has been made. -/
theorem StartsOnce.made_of_held (h : s.StartsOnce) (haccounts : s.Accounts) (hheld : ref ∈ s.held) :
    s.isMade ref = true := by
  cases ref with
  | bound n => simpa [MContext.isMade] using h.bound n hheld
  | adhoc n => simpa [MContext.isMade] using haccounts.madeFirst.made hheld
  | _ => rfl

/-- A task that is not made yet is not active. -/
theorem StartsOnce.inactive (h : s.StartsOnce) (haccounts : s.Accounts)
    (hnew : s.isMade ref = false) : s.pActiveTask ≠ some ref := by
  intro hactive
  have hmade := h.made_of_held haccounts (show ref ∈ s.held by simp [MContext.held, hactive])
  rw [hnew] at hmade
  cases hmade

theorem StartsOnce.leads_addAdhoc (h : s.StartsOnce) (haccounts : s.Accounts)
    (request : UserRequest) (hmakes : ref = .adhoc s.adhocTasks → P.Makes request.body)
    (exchanges : List Exchange) :
    Leads P ref (s.session ref exchanges) [] s (s.addAdhoc a request) := by
  have hlog : (s.addAdhoc a request).log = s.log ++ [Entry.scheduled (.adhoc s.adhocTasks)] := rfl
  have hactive : (s.addAdhoc a request).pActiveTask = s.pActiveTask := rfl
  by_cases heq : ref = .adhoc s.adhocTasks
  · have hnew : s.isMade ref = false := by simp [heq, isMade]
    refine leads_made ?_ hnew ?_ (h.inactive haccounts hnew) hactive hlog rfl exchanges
    · have hbody : ((s.addAdhoc a request).tasks ref).body = request.body := by
        simp [heq, MContext.addAdhoc, IMasterTask.configureStartExpiration, IMasterTask.ofBody]
      rw [hbody]
      exact hmakes heq
    · simp [heq, isMade, MContext.addAdhoc]
  · have hphase : (s.addAdhoc a request).phase ref = s.phase ref :=
      phase_congr hactive fun _ => ⟨rfl, rfl⟩
    refine Still.leads ⟨?_, hphase, ?_, _, hlog, rfl⟩ exchanges
    · cases ref with
      | adhoc n =>
        have hne : n ≠ s.adhocTasks := fun hn => heq (hn ▸ rfl)
        have hmade : n < s.adhocTasks + 1 ↔ n < s.adhocTasks := by omega
        simp [isMade, MContext.addAdhoc, hmade]
      | _ => rfl
    · simp [MContext.addAdhoc, Function.update_of_ne heq]

theorem StartsOnce.leads_addScan (h : s.StartsOnce) (haccounts : s.Accounts) (period : Int)
    (hmakes : ref = .bound s.boundTasks → P.Makes (.userPoll true period 0))
    (exchanges : List Exchange) :
    Leads P ref (s.session ref exchanges) [] s (s.addScan period) := by
  have hlog : (s.addScan period).log = s.log ++ [] := by
    unfold MContext.addScan
    dsimp only
    split <;> simp [schedule, recalculateTaskStartTimeout, postCheckForTask]
  have hactive : (s.addScan period).pActiveTask = s.pActiveTask := by
    unfold MContext.addScan
    dsimp only
    split <;> rfl
  have hphase : (s.addScan period).phase ref = s.phase ref := by
    unfold MContext.addScan
    dsimp only
    split <;> rfl
  have hbound : (s.addScan period).boundTasks = s.boundTasks + 1 := by
    unfold MContext.addScan
    dsimp only
    split <;> rfl
  have hadhoc : (s.addScan period).adhocTasks = s.adhocTasks := by
    unfold MContext.addScan
    dsimp only
    split <;> rfl
  have htasks : (s.addScan period).tasks = Function.update s.tasks (.bound s.boundTasks)
      (.ofBody (.userPoll true period 0)) := by
    unfold MContext.addScan
    dsimp only
    split <;> rfl
  by_cases heq : ref = .bound s.boundTasks
  · have hnew : s.isMade ref = false := by simp [heq, isMade]
    refine leads_made ?_ hnew ?_ (h.inactive haccounts hnew) hactive hlog rfl exchanges
    · have hbody : ((s.addScan period).tasks ref).body = .userPoll true period 0 := by
        simp [heq, htasks, IMasterTask.ofBody]
      rw [hbody]
      exact hmakes heq
    · simp [heq, isMade, hbound]
  · refine Still.leads ⟨?_, hphase, ?_, _, hlog, rfl⟩ exchanges
    · cases ref with
      | bound n =>
        have hne : n ≠ s.boundTasks := fun hn => heq (hn ▸ rfl)
        have hmade : n < s.boundTasks + 1 ↔ n < s.boundTasks := by omega
        simp [isMade, hbound, hmade]
      | adhoc n => simp [isMade, hadhoc]
      | _ => rfl
    · rw [htasks, Function.update_of_ne heq]

/-! ## A run of a master is a run of the session of each task -/

/-- What the event makes the task as, if it does. -/
def newBody (s : MContext) (ref : TaskRef) (e : Event) : Option TaskBody :=
  match e with
  | .scheduleAdhocTask request => if ref = .adhoc s.adhocTasks then some request.body else none
  | .addScan period => if ref = .bound s.boundTasks then some (.userPoll true period 0) else none
  | _ => none

/-- Only what is on the side changes, and then a task is looked for. -/
theorem Settled.leads_checkForTask (h : s.Settled) (happends : a.Appends)
    (hroom : 2 ≤ s'.room) (haccounts : s.Accounts) (hstarts : s.StartsOnce)
    {exchanges : List Exchange} (hlogged : .start ∈ exchanges → .taskStart ref ∈ s.log)
    (hsteady : Steady s s') (hstill : Still ref s s') (hscheduler : s'.scheduler = s.scheduler)
    (htasks : s'.tasks = s.tasks) :
    Leads P ref (s.session ref exchanges) [] s (s'.checkForTask a) := by
  have hphased : s'.Phased := h.toPhased.steady hsteady
  refine hstill.then (hphased.leads_checkForTask happends hroom fun hwaits => ?_)
  rw [hscheduler] at hwaits
  rw [htasks, hstill.made]
  refine ⟨hstarts.made_of_held haccounts (List.mem_append_right _ hwaits), ?_⟩
  exact (hstarts.startable hwaits).imp id fun hnot hstart => hnot (hlogged hstart)

/-- The starts that have been exchanged are logged. -/
theorem logged_append {log entries : List Entry} {exchanges : List Exchange}
    (hlogged : .start ∈ exchanges → .taskStart ref ∈ log)
    (hstart : .start ∈ exchanges ++ entries.filterMap (exchangeOf ref)) :
    .taskStart ref ∈ log ++ entries := by
  rcases List.mem_append.mp hstart with hstart | hstart
  · exact List.mem_append_left _ (hlogged hstart)
  · obtain ⟨entry, hentry, hexchange⟩ := List.mem_filterMap.mp hstart
    cases entry with
    | taskStart ref' =>
      obtain rfl : ref' = ref := by simpa [exchangeOf] using hexchange
      exact List.mem_append_right _ hentry
    | request _ _ | complete _ _ => simp [exchangeOf] at hexchange
    | _ => cases hexchange

theorem Settled.leads_scheduleAdhocTask (h : s.Settled) (happends : a.Appends)
    (hroom : 2 ≤ s.room) (haccounts : s.Accounts)
    (hstarts : s.StartsOnce) {exchanges : List Exchange}
    (hlogged : .start ∈ exchanges → .taskStart ref ∈ s.log) (request : UserRequest)
    (hmakes : ref = .adhoc s.adhocTasks → P.Makes request.body) :
    Leads P ref (s.session ref exchanges) [] s (s.scheduleAdhocTask a request) := by
  have hadded (exchanges : List Exchange) :
      Leads P ref (s.session ref exchanges) [] s (s.addAdhoc a request) :=
    hstarts.leads_addAdhoc haccounts request hmakes exchanges
  have honline : (s.addAdhoc a request).isOnline = s.isOnline := rfl
  unfold MContext.scheduleAdhocTask
  dsimp only
  split
  next hup =>
    have hscheduled := hstarts.scheduleAdhoc haccounts a request
    have haccounts₂ := (haccounts.scheduleAdhoc hup a request).1
    have hsettled : ((s.addAdhoc a request).schedule (.adhoc s.adhocTasks)).Settled :=
      (h.toPhased.steady (by constructor <;> rfl)).settled hup
    have hstill : Still ref (s.addAdhoc a request)
        ((s.addAdhoc a request).schedule (.adhoc s.adhocTasks)) :=
      still_of_same rfl rfl rfl rfl rfl rfl [] (List.append_nil _).symm rfl
    obtain ⟨entries, hlog, hsteps⟩ := hadded exchanges
    refine Leads.of_steps hsteps hlog rfl (hstill.then ?_)
    have hroom₂ : 2 ≤ ((s.addAdhoc a request).schedule (.adhoc s.adhocTasks)).room := hroom
    refine hsettled.leads_checkForTask happends hroom₂ haccounts₂ hscheduled
      (fun hstart => ?_) (.refl _)
      (.refl _) rfl rfl
    rw [List.append_nil] at hstart
    have hstarted := logged_append hlogged hstart
    rw [← hlog] at hstarted
    exact hstarted
  next hdown =>
    refine (hadded exchanges).then fun exchanges => ?_
    have hidle : (s.addAdhoc a request).pActiveTask ≠ some ref := by
      rw [honline] at hdown
      have hidle := h.idle_iff.mp (h.offline (by simpa using hdown)).1
      show s.pActiveTask ≠ some ref
      simp [hidle]
    exact leads_endTask hidle .failureNoComms (by decide) _ exchanges

/-- A task that is timed out is not active. -/
theorem StartsOnce.inactive_of_timedOut (h : s.StartsOnce) (haccounts : s.Accounts)
    (hwaits : ref ∈ s.scheduler) (htimed : s.isTimedOut a ref = true) :
    s.pActiveTask ≠ some ref := by
  intro hactive
  have honce : (s.tasks ref).body.isRecurring = false := by
    simp only [isTimedOut, Bool.not_eq_true', Bool.or_eq_false_iff] at htimed
    exact htimed.1
  have hheld := h.held ref (List.mem_append_right _ hwaits)
  cases ref with
  | adhoc n =>
    have hone := haccounts.atMostOnce n
    have hpos := List.count_pos_iff.mpr hwaits
    simp only [accounted, MContext.held, hactive, Option.toList_some, List.count_append,
      List.count_singleton_self] at hone
    omega
  | _ => simp [TaskRef.isAdhoc, honce] at hheld

theorem Settled.leads_step (h : s.Settled) (hroom : 2 ≤ s.room) (haccounts : s.Accounts)
    (hstarts : s.StartsOnce) {exchanges : List Exchange}
    (hlogged : .start ∈ exchanges → .taskStart ref ∈ s.log) (e : Event × Surroundings)
    (happends : e.2.Appends) (hmakes : ∀ body ∈ s.newBody ref e.1, P.Makes body)
    (hhanded : ∀ header objects, .response header objects ∈ s.responseFor ref e.1 →
      P.Hands (s.session ref exchanges) header objects) :
    Leads P ref (s.session ref exchanges) (s.responseFor ref e.1) s (s.step e) := by
  have hrefl : Leads P ref (s.session ref exchanges) [] s s := (Still.refl s).leads exchanges
  obtain ⟨e, a⟩ := e
  have happends : a.Appends := happends
  cases e with
  | lowerLayerUp =>
    show Leads P ref _ [] s s.onLowerLayerUp
    unfold onLowerLayerUp
    split
    · exact hrefl
    · exact (still_wentUp s).leads exchanges
  | lowerLayerDown =>
    show Leads P ref _ [] s (s.onLowerLayerDown a)
    by_cases honline : s.isOnline = true
    · rw [onLowerLayerDown_eq honline]
      exact leads_wentDown exchanges
    · simp only [onLowerLayerDown, honline]
      exact hrefl
  | receive apdu => exact h.leads_onReceive happends hroom apdu exchanges hhanded
  | sendResult =>
    show Leads P ref _ [] s (s.onSendResult a)
    unfold onSendResult
    split
    · have hsent : Still ref s { s with isSending := false } :=
        still_of_same rfl rfl rfl rfl rfl rfl [] (List.append_nil _).symm rfl
      have hsteady : Steady s { s with isSending := false }.checkConfirmTransmit :=
        Steady.trans (by constructor <;> rfl) (steady_checkConfirmTransmit _)
      have haside := aside_checkConfirmTransmit { s with isSending := false }
      have hroom₁ : 2 ≤ { s with isSending := false }.checkConfirmTransmit.room := by
        rw [room_checkConfirmTransmit]
        exact hroom
      exact h.leads_checkForTask happends hroom₁ haccounts hstarts hlogged hsteady
        (hsent.trans (still_checkConfirmTransmit _)) haside.scheduler haside.tasks
    · exact hrefl
  | responseTimeout =>
    show Leads P ref _ [] s (if _ then _ else _)
    split
    · exact h.leads_responseTimeout exchanges
    · exact hrefl
  | scheduleTimeout =>
    show Leads P ref _ [] s (if _ then _ else _)
    split
    · have hroom₁ : 2 ≤ { s with scheduleTimer := none }.room := hroom
      exact h.leads_checkForTask happends hroom₁ haccounts hstarts hlogged (by constructor <;> rfl)
        (still_of_same rfl rfl rfl rfl rfl rfl [] (List.append_nil _).symm rfl) rfl rfl
    · exact hrefl
  | taskStartTimeout =>
    show Leads P ref _ [] s (if _ then _ else _)
    split
    · have hstopped : Still ref s { s with taskStartTimeoutTimer := none } :=
        still_of_same rfl rfl rfl rfl rfl rfl [] (List.append_nil _).symm rfl
      refine hstopped.then (leads_checkTaskStartTimeout (fun hwaits htimed => ?_) exchanges)
      exact hstarts.inactive_of_timedOut haccounts hwaits htimed
    · exact hrefl
  | runPosted =>
    show Leads P ref _ [] s (s.runPosted a)
    unfold runPosted
    split
    · exact hrefl
    next rest _ =>
      have hroom₁ : 2 ≤ { s with posted := rest }.room := hroom
      exact h.leads_checkForTask happends hroom₁ haccounts hstarts hlogged (by constructor <;> rfl)
        (still_of_same rfl rfl rfl rfl rfl rfl [] (List.append_nil _).symm rfl) rfl rfl
    next scan rest _ =>
      have hrest : Still ref s { s with posted := rest } :=
        still_of_same rfl rfl rfl rfl rfl rfl [] (List.append_nil _).symm rfl
      exact (hrest.trans (still_demand _ (.bound scan))).leads exchanges
  | pendingTask =>
    exact Still.leads (still_of_same rfl rfl rfl rfl rfl rfl [] (List.append_nil _).symm rfl)
      exchanges
  | scheduleAdhocTask request =>
    refine h.leads_scheduleAdhocTask happends hroom haccounts hstarts hlogged request fun heq => ?_
    exact hmakes _ (by simp [newBody, heq])
  | addScan period =>
    refine hstarts.leads_addScan haccounts period (fun heq => ?_) exchanges
    exact hmakes _ (by simp [newBody, heq])
  | demandScan scan =>
    show Leads P ref _ [] s (s.demandScan scan)
    unfold demandScan
    split
    · exact Still.leads (still_of_same rfl rfl rfl rfl rfl rfl [] (List.append_nil _).symm rfl)
        exchanges
    · exact hrefl

theorem start_notMem_responseFor (e : Event) : .start ∉ s.responseFor ref e := by
  unfold responseFor
  cases e with
  | receive apdu =>
    cases hparse : APDUHeaderParser.parseResponse apdu with
    | none => simp [hparse]
    | some header =>
      simp only [hparse]
      split <;> simp
  | _ => simp

/-- What holds of a master that is traced. -/
structure Traced.Sound (ref : TaskRef) (t : Traced) : Prop where
  settled : t.context.Settled
  accounts : t.context.Accounts
  starts : t.context.StartsOnce
  room : 2 ≤ t.context.room
  logged : .start ∈ t.exchanges → .taskStart ref ∈ t.context.log

/-- The event makes the task, if it does, and hands it responses on these terms. -/
def Traced.Follows (P : TaskSession.Terms) (ref : TaskRef) (t : Traced)
    (e : Event × Surroundings) : Prop :=
  (∀ body ∈ t.context.newBody ref e.1, P.Makes body) ∧
  ∀ header objects, .response header objects ∈ t.context.responseFor ref e.1 →
    P.Hands (t.session ref) header objects

/-- An event is steps of the session of a task. -/
theorem Traced.Sound.step {t : Traced} (h : t.Sound ref) (e : Event × Surroundings)
    (happends : e.2.Appends) (hfollows : t.Follows P ref e) :
    (t.step ref e).Sound ref ∧
      TaskSession.Steps P (t.session ref) ((t.step ref e).session ref) := by
  obtain ⟨entries, hlog, hsteps⟩ :=
    h.settled.leads_step h.room h.accounts h.starts h.logged e happends hfollows.1 hfollows.2
  have hnew : (t.context.step e).log.drop t.context.log.length = entries := by
    rw [hlog, List.drop_left]
  refine ⟨⟨h.settled.step e, (h.accounts.step h.settled e).1,
    h.starts.step h.settled h.accounts e, ?_, fun hstart => ?_⟩, ?_⟩
  · show 2 ≤ (t.context.step e).room
    rw [room_step t.context e happends]
    exact h.room
  · have hstart : .start ∈ t.exchanges ++ t.context.responseFor ref e.1 ++
        ((t.context.step e).log.drop t.context.log.length).filterMap (exchangeOf ref) := hstart
    rw [hnew] at hstart
    show Entry.taskStart ref ∈ (t.context.step e).log
    rw [hlog]
    refine logged_append (fun hstart => ?_) hstart
    rcases List.mem_append.mp hstart with hstart | hstart
    · exact h.logged hstart
    · exact absurd hstart (start_notMem_responseFor e.1)
  · rw [← hnew] at hsteps
    exact hsteps

/-- A master that has just been made, before anything is exchanged. -/
def Traced.initial (params : MasterParams) : Traced := ⟨MContext.initial params, []⟩

theorem Traced.sound_initial {params : MasterParams} (hroom : 2 ≤ params.maxTxFragSize) :
    (Traced.initial params).Sound ref where
  settled := settled_initial params
  accounts := (accounts_initial params).1
  starts := startsOnce_initial params
  room := by simpa [Traced.initial, MContext.initial, MContext.room] using hroom
  logged := by simp [Traced.initial]

theorem Traced.session_initial (params : MasterParams) (ref : TaskRef) :
    (Traced.initial params).session ref =
      ⟨(MContext.initial params).isMade ref, [], .idle, (initialTasks params ref).body⟩ := by
  rw [Traced.session, MContext.session, phase_ne (by simp [Traced.initial, MContext.initial])]
  rfl

/-- A run of a master is a run of the session of each of its tasks. -/
theorem Traced.always_steps {params : MasterParams} (hroom : 2 ≤ params.maxTxFragSize)
    {events : List (Event × Surroundings)} (happends : ∀ e ∈ events, e.2.Appends)
    (hfollows : Throughout (Traced.step ref) (Traced.Follows P ref) (Traced.initial params)
      events) :
    Always (Traced.step ref)
      (fun t => TaskSession.Steps P ((Traced.initial params).session ref) (t.session ref))
      (Traced.initial params) events := by
  have hevents : Throughout (Traced.step ref) (fun t e => e.2.Appends ∧ t.Follows P ref e)
      (Traced.initial params) events :=
    Throughout.and (throughout_of_forall fun e he _ => happends e he) hfollows
  have hrun : Always (Traced.step ref) (fun t => t.Sound ref ∧
      TaskSession.Steps P ((Traced.initial params).session ref) (t.session ref))
      (Traced.initial params) events := by
    refine always_invariant ?_ ⟨Traced.sound_initial hroom, .refl⟩ hevents
    intro t e h he
    have hstep := h.1.step e he.1 he.2
    exact ⟨hstep.1, h.2.trans hstep.2⟩
  exact hrun.imp fun t h => h.2

end MContext
end Master
end Dnp3
