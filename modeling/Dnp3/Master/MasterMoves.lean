import Dnp3.Master.MasterContext
import Mathlib.Data.List.Perm.Subperm
import Mathlib.Logic.Relation

/-!
# What a master can do

Whatever the event is, a master does few things to its tasks: it starts one that waits with the
scheduler, changes the fields of the active one, ends the active one, or ends one that waited for
too long.  `Move` lists them, and everything a master does between its transmissions of confirms is
a sequence of moves.  What all moves keep is kept by the handlers.

`Settled` is what holds between events: the master is idle when no task is active, and waits for a
response when the response timer runs.

`Framed` are changes outside of the tasks, such as timers and transmissions.  A move says what it
does to the tasks and to the log, with the conditions it is done under.  An invariant of the tasks
is then shown for a handful of moves (`Moves.keeps`) and holds for everything that a master does,
which is how the results on demands, starts and requests of the user are proved.  Responses need a
little more, since a confirm may be transmitted in the middle of them: `Handled` is a response as
moves, a confirm, and moves again.
-/

namespace Dnp3
namespace Master
namespace MContext

open App Relation

variable {s s' t : MContext} {a : Surroundings} {ref : TaskRef}

/-! ## The parts of the state -/

@[simp] theorem note_eq (s : MContext) (entry : Entry) :
    s.note entry = { s with log := s.log ++ [entry] } := rfl

@[simp] theorem setTask_eq (s : MContext) (ref : TaskRef) (task : IMasterTask) :
    s.setTask ref task = { s with tasks := Function.update s.tasks ref task } := rfl

/-- The entries that the end of a task adds to the log. -/
def endEntries (task : IMasterTask) (ref : TaskRef) (result : TaskCompletion) : List Entry :=
  ((task.body.completionCallback result).map (Entry.userCallback ref)).toList ++
    [.complete ref result]

theorem endTask_eq (s : MContext) (a : Surroundings) (ref : TaskRef) (result : TaskCompletion) :
    s.endTask a ref result =
      { s with
        tasks := Function.update s.tasks ref ((s.tasks ref).complete result a.now)
        log := s.log ++ endEntries (s.tasks ref) ref result } := by
  unfold endTask endEntries
  cases h : (s.tasks ref).body.completionCallback result <;> simp [h]

theorem demand_eq (s : MContext) (ref : TaskRef) :
    s.demand ref =
      { s with
        tasks := Function.update s.tasks ref (s.tasks ref).demand
        log := s.log ++ [.demand ref] } := rfl

theorem schedule_eq (s : MContext) (ref : TaskRef) : ∃ timer,
    s.schedule ref =
      { s with scheduler := s.scheduler ++ [ref], taskStartTimeoutTimer := timer } :=
  ⟨_, rfl⟩

/-- The scans whose demands have been posted. -/
def postedDemands (s : MContext) : List Nat :=
  s.posted.filterMap fun
    | .demand scan => some scan
    | .checkForTask => none

/-! ## Framed changes -/

/-- The tasks, the confirms, the demands that are posted and the log are the same. -/
structure Framed (s s' : MContext) : Prop where
  params : s'.params = s.params
  isOnline : s'.isOnline = s.isOnline
  pActiveTask : s'.pActiveTask = s.pActiveTask
  tasks : s'.tasks = s.tasks
  boundTasks : s'.boundTasks = s.boundTasks
  adhocTasks : s'.adhocTasks = s.adhocTasks
  scheduler : s'.scheduler = s.scheduler
  confirmQueue : s'.confirmQueue = s.confirmQueue
  received : s'.received = s.received
  postedDemands : s'.postedDemands = s.postedDemands
  log : s'.log = s.log

theorem Framed.refl (s : MContext) : Framed s s := by constructor <;> rfl

/-! ## Moves -/

/-- Values are handed over, or a request is transmitted. -/
inductive IsTraffic : Entry → Prop
  | measurements (id : Nat) (values : Measurements) : IsTraffic (.measurements id values)
  | request (ref : TaskRef) (apdu : List UInt8) : IsTraffic (.request ref apdu)

/-- The scheduler hands a task over, which becomes active. -/
def started (s : MContext) (ref : TaskRef) (rest : List TaskRef) : MContext :=
  (({ s with pActiveTask := some ref, scheduler := rest }.setTask ref
    (s.tasks ref).start).note (.taskStart ref))

/-- A task that waits ends without having started. -/
def timedOut (s : MContext) (a : Surroundings) (ref : TaskRef) : MContext :=
  { s.endTask a ref .failureStartTimeout with scheduler := s.scheduler.erase ref }

/-- The things a master does to its tasks. -/
inductive Move (a : Surroundings) : MContext → MContext → Prop
  | frame {s s' : MContext} (h : Framed s s') : Move a s s'
  | traffic (s : MContext) {entry : Entry} (h : IsTraffic entry) : Move a s (s.note entry)
  | progress {s : MContext} {ref : TaskRef} {body : TaskBody} (hactive : s.pActiveTask = some ref)
      (hbody : (s.tasks ref).body.SameClass body) :
      Move a s (s.setTask ref { s.tasks ref with body := body })
  | start {s : MContext} {ref : TaskRef} {rest : List TaskRef} (hidle : s.pActiveTask = none)
      (hperm : s.scheduler.Perm (ref :: rest)) : Move a s (s.started ref rest)
  | finish {s : MContext} {ref : TaskRef} (hactive : s.pActiveTask = some ref)
      (result : TaskCompletion) : Move a s (s.endTask a ref result).completeActiveTask
  | timeout {s : MContext} {ref : TaskRef} (hwaits : ref ∈ s.scheduler)
      (honce : (s.tasks ref).body.isRecurring = false) : Move a s (s.timedOut a ref)

/-- One thing after the other. -/
abbrev Moves (a : Surroundings) : MContext → MContext → Prop := ReflTransGen (Move a)

theorem Moves.refl (s : MContext) : Moves a s s := ReflTransGen.refl

theorem Move.moves (h : Move a s s') : Moves a s s' := ReflTransGen.single h

theorem Framed.moves (h : Framed s s') : Moves a s s' := (Move.frame h).moves

/-- What every move keeps, moves keep. -/
theorem Moves.keeps {I : MContext → Prop} (hmove : ∀ s s', Move a s s' → I s → I s')
    (h : Moves a s s') (hs : I s) : I s' := by
  induction h with
  | refl => exact hs
  | tail _ hlast ih => exact hmove _ _ hlast ih

/-- A state is not changed in what the handlers of confirms rely on. -/
structure Unconfirmed (s s' : MContext) : Prop where
  params : s'.params = s.params
  isOnline : s'.isOnline = s.isOnline
  confirmQueue : s'.confirmQueue = s.confirmQueue
  received : s'.received = s.received
  boundTasks : s'.boundTasks = s.boundTasks
  adhocTasks : s'.adhocTasks = s.adhocTasks
  postedDemands : s'.postedDemands = s.postedDemands

theorem completeActiveTask_none (h : s.pActiveTask = none) : s.completeActiveTask = s := by
  simp only [completeActiveTask, h]

/-- The active task leaves its place, and waits with the scheduler again if it recurs. -/
theorem completeActiveTask_some (h : s.pActiveTask = some ref) : ∃ timer,
    s.completeActiveTask =
      { s with
        pActiveTask := none
        scheduler := s.scheduler ++ if (s.tasks ref).body.isRecurring then [ref] else []
        taskStartTimeoutTimer := timer
        posted := s.posted ++ [Posted.checkForTask] } := by
  simp only [completeActiveTask, h]
  by_cases hrec : (s.tasks ref).body.isRecurring = true
  · simp only [hrec, if_true]
    exact ⟨_, rfl⟩
  · exact ⟨s.taskStartTimeoutTimer, by simp [hrec, postCheckForTask]⟩

/-- The state when the active task has ended and left its place. -/
theorem finish_eq (h : s.pActiveTask = some ref) (result : TaskCompletion) : ∃ timer,
    (s.endTask a ref result).completeActiveTask =
      { s with
        pActiveTask := none
        tasks := Function.update s.tasks ref ((s.tasks ref).complete result a.now)
        scheduler := s.scheduler ++ if (s.tasks ref).body.isRecurring then [ref] else []
        taskStartTimeoutTimer := timer
        posted := s.posted ++ [Posted.checkForTask]
        log := s.log ++ endEntries (s.tasks ref) ref result } := by
  have hactive : (s.endTask a ref result).pActiveTask = some ref := by
    rw [endTask_eq]
    exact h
  obtain ⟨timer, htimer⟩ := completeActiveTask_some hactive
  exact ⟨timer, by rw [htimer, endTask_eq]; simp [IMasterTask.complete]⟩

theorem timedOut_eq (s : MContext) (a : Surroundings) (ref : TaskRef) :
    s.timedOut a ref =
      { s with
        tasks := Function.update s.tasks ref ((s.tasks ref).complete .failureStartTimeout a.now)
        scheduler := s.scheduler.erase ref
        log := s.log ++ endEntries (s.tasks ref) ref .failureStartTimeout } := by
  rw [timedOut, endTask_eq]

theorem Move.unconfirmed (h : Move a s s') : Unconfirmed s s' := by
  cases h with
  | frame h =>
    exact ⟨h.params, h.isOnline, h.confirmQueue, h.received, h.boundTasks, h.adhocTasks,
      h.postedDemands⟩
  | traffic _ => constructor <;> rfl
  | progress _ _ => constructor <;> rfl
  | start _ _ => constructor <;> rfl
  | finish hactive result =>
    obtain ⟨timer, h⟩ := finish_eq hactive result
    rw [h]
    refine ⟨rfl, rfl, rfl, rfl, rfl, rfl, ?_⟩
    simp [MContext.postedDemands]
  | timeout _ _ =>
    rw [timedOut_eq]
    constructor <;> rfl

theorem Unconfirmed.trans {s'' : MContext} (h : Unconfirmed s s') (h' : Unconfirmed s' s'') :
    Unconfirmed s s'' where
  params := h'.params.trans h.params
  isOnline := h'.isOnline.trans h.isOnline
  confirmQueue := h'.confirmQueue.trans h.confirmQueue
  received := h'.received.trans h.received
  boundTasks := h'.boundTasks.trans h.boundTasks
  adhocTasks := h'.adhocTasks.trans h.adhocTasks
  postedDemands := h'.postedDemands.trans h.postedDemands

theorem Moves.unconfirmed (h : Moves a s s') : Unconfirmed s s' := by
  induction h with
  | refl => constructor <;> rfl
  | tail _ hlast ih => exact ih.trans hlast.unconfirmed

/-- The entries about the tasks that moves add to the log. -/
inductive IsMove : Entry → Prop
  | traffic {entry : Entry} (h : IsTraffic entry) : IsMove entry
  | taskStart (ref : TaskRef) : IsMove (.taskStart ref)
  | userCallback (ref : TaskRef) (call : UserCallback) : IsMove (.userCallback ref call)
  | complete (ref : TaskRef) (result : TaskCompletion) : IsMove (.complete ref result)

theorem isMove_endEntries {task : IMasterTask} {result : TaskCompletion} {entry : Entry}
    (h : entry ∈ endEntries task ref result) : IsMove entry := by
  rw [endEntries, List.mem_append, Option.mem_toList, Option.map_eq_some_iff,
    List.mem_singleton] at h
  rcases h with ⟨call, -, rfl⟩ | rfl
  · exact .userCallback ref call
  · exact .complete ref result

/-- A move logs only what moves do. -/
theorem Move.log (h : Move a s s') : ∃ entries, s'.log = s.log ++ entries ∧
    ∀ entry ∈ entries, IsMove entry := by
  cases h with
  | frame h => exact ⟨[], by rw [h.log, List.append_nil], by simp⟩
  | traffic h => exact ⟨_, rfl, by simpa using IsMove.traffic h⟩
  | progress _ _ => exact ⟨[], (List.append_nil _).symm, by simp⟩
  | start _ _ => exact ⟨_, rfl, by simpa using IsMove.taskStart _⟩
  | finish hactive result =>
    obtain ⟨timer, h⟩ := finish_eq hactive result
    exact ⟨_, by rw [h], fun entry => isMove_endEntries⟩
  | timeout _ _ => exact ⟨_, by rw [timedOut_eq], fun entry => isMove_endEntries⟩

theorem Moves.log (h : Moves a s s') : ∃ entries, s'.log = s.log ++ entries ∧
    ∀ entry ∈ entries, IsMove entry := by
  induction h with
  | refl => exact ⟨[], by simp, by simp⟩
  | tail _ hlast ih =>
    obtain ⟨entries, hlog, hentries⟩ := ih
    obtain ⟨more, hmore, hmoves⟩ := hlast.log
    refine ⟨entries ++ more, by rw [hmore, hlog, List.append_assoc], ?_⟩
    intro entry hentry
    rcases List.mem_append.mp hentry with hentry | hentry
    · exact hentries entry hentry
    · exact hmoves entry hentry

/-! ## The handlers of tasks -/

/-- The active task transmits its next request, or ends because it has none. -/
theorem moves_resumeActiveTask (s : MContext) (a : Surroundings) :
    Moves a s (s.resumeActiveTask a) := by
  unfold resumeActiveTask
  split
  · split
    · exact .refl s
    next ref hactive =>
      dsimp only
      set built := (s.tasks ref).body.buildRequest a (.create s.txBuffer) s.solSeq with hbuilt
      have hprogress : Moves a s (s.setTask ref { s.tasks ref with body := built.1 }) :=
        (Move.progress hactive (hbuilt ▸ TaskBody.sameClass_buildRequest a _ _ _)).moves
      refine hprogress.trans ?_
      split
      · have htraffic : Moves a (s.setTask ref { s.tasks ref with body := built.1 })
            ((s.setTask ref { s.tasks ref with body := built.1 }).note
              (.request ref built.2.1.toRSlice)) := (Move.traffic _ (.request ref _)).moves
        exact htraffic.trans (Framed.moves (by constructor <;> rfl))
      · set s₁ : MContext := { s.setTask ref { s.tasks ref with body := built.1 } with
          txBuffer := built.2.1.slice.mem }
        have hframe : Moves a (s.setTask ref { s.tasks ref with body := built.1 }) s₁ :=
          Framed.moves (by constructor <;> rfl)
        have hactive₁ : s₁.pActiveTask = some ref := hactive
        exact (hframe.tail (.finish hactive₁ .failureInternalError)).trans
          (Framed.moves (by constructor <;> rfl))
  · exact Framed.moves (by constructor <;> rfl)

theorem moves_startTaskReady (s : MContext) (a : Surroundings) :
    Moves a s (s.startTaskReady a) := by
  unfold startTaskReady
  split
  · exact Framed.moves (by constructor <;> rfl)
  · exact moves_resumeActiveTask s a

/-- An idle master may start the task that the scheduler gives it. -/
theorem moves_startTaskIdle (hidle : s.pActiveTask = none) : Moves a s (s.startTaskIdle a) := by
  unfold startTaskIdle
  split
  · exact .refl s
  · split
    next ref rest hnext =>
      have hperm : s.scheduler.Perm (ref :: rest) :=
        (MasterScheduler.getNext_start_perm hnext).symm
      exact ReflTransGen.trans (Move.moves (.start hidle hperm)) (moves_resumeActiveTask _ a)
    · exact Framed.moves (by constructor <;> rfl)

/-- The tasks that are timed out leave the scheduler one after the other. -/
theorem foldl_erase_filter (p : TaskRef → Bool) (l : List TaskRef) :
    (l.filter p).foldl List.erase l = l.filter fun ref => !p ref := by
  have hcons (x : TaskRef) (hx : p x = false) (out l : List TaskRef)
      (hout : ∀ y ∈ out, p y = true) :
      out.foldl List.erase (x :: l) = x :: out.foldl List.erase l := by
    induction out generalizing l with
    | nil => rfl
    | cons y out ih =>
      have hne : (x == y) = false := by
        rw [beq_eq_false_iff_ne]
        rintro rfl
        exact Bool.false_ne_true (hx.symm.trans (hout x (by simp)))
      rw [List.foldl_cons, List.erase_cons, hne]
      exact ih _ fun z hz => hout z (by simp [hz])
  induction l with
  | nil => rfl
  | cons x l ih =>
    by_cases hx : p x = true
    · simpa [hx] using ih
    · have hx : p x = false := by simpa using hx
      rw [List.filter_cons_of_neg (by simp [hx]), hcons x hx _ _ (by simp), ih]
      simp [hx]

theorem foldl_timedOut (s : MContext) (a : Surroundings) (out : List TaskRef) :
    out.foldl (fun s ref => s.timedOut a ref) s =
      { out.foldl (fun s ref => s.endTask a ref .failureStartTimeout) s with
        scheduler := out.foldl List.erase s.scheduler } := by
  induction out using List.reverseRecOn with
  | nil => rfl
  | append_singleton out ref ih =>
    simp only [List.foldl_append, List.foldl_cons, List.foldl_nil, ih]
    rw [timedOut_eq, endTask_eq]

/-- The tasks that have not started in time end one after the other. -/
theorem moves_timedOut {out : List TaskRef} (hsub : out.Subperm s.scheduler)
    (honce : ∀ ref ∈ out, (s.tasks ref).body.isRecurring = false) :
    Moves a s (out.foldl (fun s ref => s.timedOut a ref) s) := by
  induction out generalizing s with
  | nil => exact .refl s
  | cons ref out ih =>
    have hwaits : ref ∈ s.scheduler := hsub.subset (by simp)
    have hmove : Move a s (s.timedOut a ref) := .timeout hwaits (honce ref (by simp))
    refine ReflTransGen.trans hmove.moves (ih ?_ ?_)
    · rw [timedOut_eq]
      simpa using hsub.erase ref
    · intro ref' href'
      rw [timedOut_eq]
      by_cases h : ref' = ref
      · subst h
        simpa [IMasterTask.complete] using honce ref' (by simp)
      · simpa [Function.update_of_ne h] using honce ref' (by simp [href'])

/-- The timer of the scheduler ends tasks that wait. -/
theorem moves_checkTaskStartTimeout (s : MContext) (a : Surroundings) :
    Moves a s (s.checkTaskStartTimeout a) := by
  have hmoves : Moves a s ((s.scheduler.filter (s.isTimedOut a)).foldl
      (fun s ref => s.timedOut a ref) s) := by
    apply moves_timedOut
    · exact List.filter_sublist.subperm
    · intro ref href
      have htimed := (List.mem_filter.mp href).2
      simp only [isTimedOut, Bool.not_eq_true', Bool.or_eq_false_iff] at htimed
      exact htimed.1
  rw [foldl_timedOut, foldl_erase_filter] at hmoves
  exact hmoves

/-! ## Responses -/

theorem noteMeasurements_cases (s : MContext) (id : Nat) (values : Measurements) :
    s.noteMeasurements id values = s ∨
      s.noteMeasurements id values = s.note (.measurements id values) := by
  unfold noteMeasurements
  split
  · exact .inl rfl
  · exact .inr rfl

theorem moves_noteMeasurements (s : MContext) (a : Surroundings) (id : Nat)
    (values : Measurements) : Moves a s (s.noteMeasurements id values) := by
  rcases noteMeasurements_cases s id values with h | h
  · rw [h]
  · rw [h]
    exact (Move.traffic s (.measurements id values)).moves

/-- The confirm that a response asks for. -/
def confirmOf (header : APDUResponseHeader) : APDUHeader :=
  .confirm header.control.SEQ (header.function == .unsolicitedResponse)

/-- A confirm that is queued goes out at once, or waits for the end of the transmission. -/
inductive Confirms (s : MContext) (id : Nat) (header : APDUResponseHeader) : MContext → Prop
  | none : Confirms s id header s
  | queued (hcon : header.control.CON = true) :
      Confirms s id header (s.queueConfirm id (confirmOf header))

/-- A response is confirmed when it asks for it. -/
theorem confirms_confirmIfAsked (s : MContext) (id : Nat) {header : APDUResponseHeader}
    {unsolicited : Bool} (hfunction : (header.function == .unsolicitedResponse) = unsolicited) :
    Confirms s id header (s.confirmIfAsked id header unsolicited) := by
  unfold confirmIfAsked
  split
  next hcon =>
    rw [← hfunction]
    exact .queued hcon
  · exact .none

/-- What the transmission of a confirm leaves alone. -/
theorem checkConfirmTransmit_cases (s : MContext) :
    s.checkConfirmTransmit = s ∨ ∃ id confirm queue mem, s.isSending = false ∧
      s.confirmQueue = (id, confirm) :: queue ∧
      s.checkConfirmTransmit =
        { s with
          isSending := true
          txBuffer := mem
          confirmQueue := queue
          log := s.log ++ [.confirm id confirm] } := by
  unfold checkConfirmTransmit
  split
  next id confirm queue hsending hqueue =>
    exact .inr ⟨id, confirm, queue, _, hsending, hqueue, rfl⟩
  · exact .inl rfl

/-- The active task may end before its response is confirmed. -/
theorem completeActiveTask_queueConfirm (s : MContext) (id : Nat) (header : APDUHeader) :
    (s.queueConfirm id header).completeActiveTask =
      s.completeActiveTask.queueConfirm id header := by
  cases hactive : s.pActiveTask with
  | none =>
    rw [completeActiveTask_none hactive, completeActiveTask_none]
    obtain h | ⟨_, _, _, _, _, _, h⟩ := checkConfirmTransmit_cases
        { s with confirmQueue := s.confirmQueue ++ [(id, header)] } <;>
      rw [queueConfirm, h] <;> exact hactive
  | some ref =>
    unfold queueConfirm checkConfirmTransmit completeActiveTask
    simp only [hactive]
    by_cases hrec : (s.tasks ref).body.isRecurring = true <;>
      cases s.isSending <;>
      cases s.confirmQueue <;>
      simp [hrec, transmit] <;>
      rfl

theorem completeActiveTask_confirmIfAsked (s : MContext) (id : Nat) (header : APDUResponseHeader)
    (unsolicited : Bool) :
    (s.confirmIfAsked id header unsolicited).completeActiveTask =
      s.completeActiveTask.confirmIfAsked id header unsolicited := by
  unfold confirmIfAsked
  split
  · exact completeActiveTask_queueConfirm s id _
  · rfl

/-- Entries about sessions, responses, requests and confirms, and not about what becomes of tasks.
-/
def IsAside : Entry → Prop
  | .up | .down | .received _ _ _ | .measurements _ _ | .request _ _ | .confirm _ _ => True
  | _ => False

/-- The tasks and what is demanded of them are left alone. -/
structure Aside (s s' : MContext) : Prop where
  params : s'.params = s.params
  isOnline : s'.isOnline = s.isOnline
  pActiveTask : s'.pActiveTask = s.pActiveTask
  tasks : s'.tasks = s.tasks
  boundTasks : s'.boundTasks = s.boundTasks
  adhocTasks : s'.adhocTasks = s.adhocTasks
  scheduler : s'.scheduler = s.scheduler
  postedDemands : s'.postedDemands = s.postedDemands
  log : ∃ entries, s'.log = s.log ++ entries ∧ ∀ entry ∈ entries, IsAside entry

theorem Framed.aside (h : Framed s s') : Aside s s' where
  params := h.params
  isOnline := h.isOnline
  pActiveTask := h.pActiveTask
  tasks := h.tasks
  boundTasks := h.boundTasks
  adhocTasks := h.adhocTasks
  scheduler := h.scheduler
  postedDemands := h.postedDemands
  log := ⟨[], by rw [h.log, List.append_nil], by simp⟩

theorem aside_note (s : MContext) {entry : Entry} (h : IsAside entry) :
    Aside s (s.note entry) :=
  ⟨rfl, rfl, rfl, rfl, rfl, rfl, rfl, rfl, [entry], rfl, by simpa using h⟩

theorem IsTraffic.isAside {entry : Entry} (h : IsTraffic entry) : IsAside entry := by
  rcases h with ⟨_, _⟩ | ⟨_, _⟩ <;> trivial

theorem aside_checkConfirmTransmit (s : MContext) : Aside s s.checkConfirmTransmit := by
  obtain h | ⟨id, confirm, _, _, _, _, h⟩ := checkConfirmTransmit_cases s
  · rw [h]
    exact (Framed.refl s).aside
  · rw [h]
    exact ⟨rfl, rfl, rfl, rfl, rfl, rfl, rfl, rfl, [.confirm id confirm], rfl, by simp [IsAside]⟩

theorem Confirms.aside {id : Nat} {header : APDUResponseHeader} (h : Confirms s id header s') :
    Aside s s' := by
  cases h with
  | none => exact (Framed.refl s).aside
  | queued _ =>
    obtain ⟨h₁, h₂, h₃, h₄, h₅, h₆, h₇, h₈, h₉⟩ := aside_checkConfirmTransmit
      { s with confirmQueue := s.confirmQueue ++ [(id, confirmOf header)] }
    exact ⟨h₁, h₂, h₃, h₄, h₅, h₆, h₇, h₈, h₉⟩

theorem aside_noteReceived (s : MContext) (header : APDUResponseHeader) (objects : List UInt8) :
    Aside s (s.noteReceived header objects) :=
  ⟨rfl, rfl, rfl, rfl, rfl, rfl, rfl, rfl, [.received s.received header objects], rfl,
    by simp [IsAside]⟩

/-- A response that is handled: moves, a confirm, and moves again. -/
inductive Handled (a : Surroundings) (id : Nat) (header : APDUResponseHeader)
    (s : MContext) : MContext → Prop
  | mk {s₁ s₂ s₃ : MContext} (before : Moves a s s₁) (confirms : Confirms s₁ id header s₂)
      (after : Moves a s₂ s₃) : Handled a id header s s₃

/-- The active task has processed a response, and has not ended yet. -/
def answered (s : MContext) (a : Surroundings) (ref : TaskRef) (id : Nat)
    (header : APDUResponseHeader) (objects : List UInt8) : MContext :=
  let answer := (s.tasks ref).body.processResponse a header objects
  ({ s with responseTimer := none, solSeq := s.solSeq + 1 }.setTask ref
    { s.tasks ref with body := answer.1 }).noteMeasurements id answer.2.2

/-- A response with the expected number is answered by the active task. -/
theorem onResponseWaitForResponse_eq (hactive : s.pActiveTask = some ref) (id : Nat)
    {header : APDUResponseHeader} (hseq : header.control.SEQ = s.solSeq) (objects : List UInt8) :
    s.onResponseWaitForResponse a id header objects =
      let answered := s.answered a ref id header objects
      let ended (completion : TaskCompletion) : MContext :=
        { ((answered.endTask a ref completion).confirmIfAsked id header
          false).completeActiveTask with tstate := .idle }
      match ((s.tasks ref).body.processResponse a header objects).2.1 with
      | .okContinue => (answered.confirmIfAsked id header false).startResponseTimer a
      | .okRepeat => (answered.confirmIfAsked id header false).startTaskReady a
      | .okFinal => ended .success
      | .errorBadResponse => ended .failureBadResponse
      | .errorInternalFailure => ended .failureInternalError := by
  unfold onResponseWaitForResponse taskOnResponse answered
  simp only [hactive, hseq]
  cases ((s.tasks ref).body.processResponse a header objects).2.1 <;> simp <;> rfl

theorem answered_pActiveTask (s : MContext) (a : Surroundings) (ref : TaskRef) (id : Nat)
    (header : APDUResponseHeader) (objects : List UInt8) :
    (s.answered a ref id header objects).pActiveTask = s.pActiveTask := by
  unfold answered
  dsimp only
  rcases noteMeasurements_cases ({ s with responseTimer := none, solSeq := s.solSeq + 1 }.setTask
    ref { s.tasks ref with body := ((s.tasks ref).body.processResponse a header objects).1 }) id
    ((s.tasks ref).body.processResponse a header objects).2.2 with h | h <;> rw [h] <;> rfl

/-- The active task has processed its response. -/
theorem moves_answered (hactive : s.pActiveTask = some ref) (id : Nat)
    (header : APDUResponseHeader) (objects : List UInt8) :
    Moves a s (s.answered a ref id header objects) := by
  set s₀ : MContext := { s with responseTimer := none, solSeq := s.solSeq + 1 }
  set answer := (s.tasks ref).body.processResponse a header objects
  have hframe : Moves a s s₀ := Framed.moves (by constructor <;> rfl)
  have hactive₀ : s₀.pActiveTask = some ref := hactive
  have hbody : (s₀.tasks ref).body.SameClass answer.1 :=
    TaskBody.sameClass_processResponse a header objects _
  exact (hframe.tail (.progress hactive₀ hbody)).trans (moves_noteMeasurements _ a id answer.2.2)

/-- A solicited response is moves, its confirm, and moves again. -/
theorem handled_onResponseWaitForResponse (s : MContext) (a : Surroundings) (id : Nat)
    {header : APDUResponseHeader} (hfunction : header.function = .response)
    (objects : List UInt8) :
    Handled a id header s (s.onResponseWaitForResponse a id header objects) := by
  have hconfirms (s : MContext) : Confirms s id header (s.confirmIfAsked id header false) :=
    confirms_confirmIfAsked s id (by simp [hfunction])
  cases hactive : s.pActiveTask with
  | none =>
    simp only [onResponseWaitForResponse, hactive]
    exact .mk (.refl s) .none (.refl s)
  | some ref =>
    by_cases hseq : header.control.SEQ = s.solSeq
    · rw [onResponseWaitForResponse_eq hactive id hseq]
      have hmoves : Moves a s (s.answered a ref id header objects) :=
        moves_answered hactive id header objects
      have hends (completion : TaskCompletion) : Handled a id header s
          { (((s.answered a ref id header objects).endTask a ref completion).confirmIfAsked id
            header false).completeActiveTask with tstate := .idle } := by
        rw [completeActiveTask_confirmIfAsked]
        exact .mk (hmoves.tail (.finish ((answered_pActiveTask ..).trans hactive) completion))
          (hconfirms _) (Framed.moves (by constructor <;> rfl))
      dsimp only
      cases ((s.tasks ref).body.processResponse a header objects).2.1 with
      | okContinue =>
        exact .mk hmoves (hconfirms _) (Framed.moves (by constructor <;> rfl))
      | okRepeat => exact .mk hmoves (hconfirms _) (moves_startTaskReady _ a)
      | okFinal => exact hends .success
      | errorBadResponse => exact hends .failureBadResponse
      | errorInternalFailure => exact hends .failureInternalError
    · simp only [onResponseWaitForResponse, hactive, ne_eq, hseq, not_false_eq_true, if_true]
      exact .mk (.refl s) .none (.refl s)

theorem handled_onResponseEvent (s : MContext) (a : Surroundings) (id : Nat)
    {header : APDUResponseHeader} (hfunction : header.function = .response)
    (objects : List UInt8) : Handled a id header s (s.onResponseEvent a id header objects) := by
  unfold onResponseEvent
  split
  · exact handled_onResponseWaitForResponse s a id hfunction objects
  · exact .mk (.refl s) .none (.refl s)

/-- An unsolicited response is handed over and confirmed, and no task is moved. -/
theorem handled_takeUnsolicited (s : MContext) (a : Surroundings) (id : Nat)
    {header : APDUResponseHeader} (hfunction : header.function = .unsolicitedResponse)
    (objects : List UInt8) : Handled a id header s (s.takeUnsolicited id header objects) := by
  unfold takeUnsolicited
  dsimp only
  split
  · exact .mk (moves_noteMeasurements s a id _)
      (confirms_confirmIfAsked _ id (by simp [hfunction])) (.refl _)
  · exact .mk (moves_noteMeasurements s a id _) .none (.refl _)

/-- The state in which the indications of a response are processed, if they are. -/
def respondedTo (s : MContext) (a : Surroundings) (id : Nat) (header : APDUResponseHeader)
    (objects : List UInt8) : Option MContext :=
  match header.function with
  | .unsolicitedResponse =>
    if header.control.UNS then some (s.takeUnsolicited id header objects) else none
  | .response => some (s.onResponseEvent a id header objects)
  | _ => none

/-- A fragment is responded to, and then its indications are processed. -/
theorem processAPDU_eq (s : MContext) (a : Surroundings) (id : Nat) (header : APDUResponseHeader)
    (objects : List UInt8) :
    s.processAPDU a id header objects =
      match s.respondedTo a id header objects with
      | some s' => s'.processIIN header.IIN
      | none => s := by
  unfold processAPDU respondedTo processUnsolicitedResponse processResponse
  cases header.function <;> simp only
  split <;> rfl

theorem handled_respondedTo {id : Nat} {header : APDUResponseHeader} {objects : List UInt8}
    (h : s.respondedTo a id header objects = some s') : Handled a id header s s' := by
  unfold respondedTo at h
  split at h
  next hfunction =>
    split at h
    · cases h
      exact handled_takeUnsolicited s a id hfunction objects
    · cases h
  next hfunction =>
    cases h
    exact handled_onResponseEvent s a id hfunction objects
  · cases h

/-! ## Timeouts and new tasks -/

/-- The active task ends when nothing was answered in time. -/
theorem moves_onResponseTimeout (s : MContext) (a : Surroundings) :
    Moves a s (s.onResponseTimeout a) := by
  unfold onResponseTimeout
  split
  · split
    · unfold onResponseTimeoutWaitForResponse
      split
      · exact .refl s
      next ref hactive =>
        set s₁ : MContext := { s with solSeq := s.solSeq + 1 } with hs₁
        have hframe : Moves a s s₁ := Framed.moves (by constructor <;> rfl)
        have hactive₁ : s₁.pActiveTask = some ref := hactive
        have hfinish := hframe.tail (.finish hactive₁ .failureResponseTimeout)
        rw [endTask_eq] at hfinish ⊢
        exact hfinish.trans (Framed.moves (by constructor <;> rfl))
    · exact .refl s
  · exact .refl s

end MContext
end Master
end Dnp3
