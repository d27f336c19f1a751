import Dnp3.Master.AdhocTasks

/-!
# Starts of tasks

The tasks of a session recur: they go back to the scheduler whenever they have ended, and start
again.  A task that runs once is taken from the scheduler when it starts, and never returns to it.

A task that runs once is started at most once, and it has been made before: `StartsOnce` is this
with what makes it inductive.  A task that waits with the scheduler and does not recur has not been
started, and no start of a task is logged that has not been made.  A move of the master starts only
a task that waits (`StartsOnce.move`), and a task that has ended does not wait any more; new tasks
have numbers that nobody had before.  `StartsOnce.step` puts the events together.  The observers of
tasks that run once rely on it, since they read the log of a task from its only start on.
-/

namespace Dnp3
namespace Master
namespace MContext

open App Library Relation

variable {s s' : MContext} {a : Surroundings} {ref : TaskRef}

/-- The tasks of a session recur, and so does every task that is held and was not asked for by the
user; one that was does not wait again once it has started. -/
structure StartsOnce (s : MContext) : Prop where
  session : ∀ ref ∈ s.sessionTasks, (s.tasks ref).body.isRecurring = true
  held : ∀ ref ∈ s.held, ref.isAdhoc = true ∨ (s.tasks ref).body.isRecurring = true
  bound : ∀ n, .bound n ∈ s.held → n < s.boundTasks
  once : ∀ n, .taskStart (.adhoc n) ∈ s.log → .adhoc n ∉ s.scheduler
  made : ∀ n, .taskStart (.adhoc n) ∈ s.log → n < s.adhocTasks

/-- A task that waits recurs, or has not started yet. -/
theorem StartsOnce.startable (h : s.StartsOnce) (hwaits : ref ∈ s.scheduler) :
    (s.tasks ref).body.isRecurring = true ∨ .taskStart ref ∉ s.log := by
  obtain hadhoc | hrecurs := h.held ref (List.mem_append_right _ hwaits)
  · cases ref with
    | adhoc n => exact .inr fun hstarted => h.once n hstarted hwaits
    | _ => cases hadhoc
  · exact .inl hrecurs

/-- Nothing that matters for the starts of tasks has changed. -/
structure Unstarted (s s' : MContext) : Prop where
  boundTasks : s'.boundTasks = s.boundTasks
  adhocTasks : s'.adhocTasks = s.adhocTasks
  tasks : ∀ ref, (s'.tasks ref).body.isRecurring = (s.tasks ref).body.isRecurring
  held : ∀ ref ∈ s'.held, ref ∈ s.held
  scheduler : ∀ n, .adhoc n ∈ s'.scheduler → .adhoc n ∈ s.scheduler
  log : ∀ n, .taskStart (.adhoc n) ∈ s'.log → .taskStart (.adhoc n) ∈ s.log

/-- Nothing has changed for the starts of tasks. -/
theorem StartsOnce.unstarted (h : s.StartsOnce) (hun : Unstarted s s') : s'.StartsOnce where
  session := by
    rw [sessionTasks_congr hun.boundTasks]
    intro ref hmem
    rw [hun.tasks]
    exact h.session ref hmem
  held := by
    intro ref hmem
    rw [hun.tasks]
    exact h.held ref (hun.held ref hmem)
  bound n hmem := by
    rw [hun.boundTasks]
    exact h.bound n (hun.held _ hmem)
  once n hstarted hwaits := h.once n (hun.log n hstarted) (hun.scheduler n hwaits)
  made n hstarted := by
    rw [hun.adhocTasks]
    exact h.made n (hun.log n hstarted)

/-- Changes outside of the tasks start none. -/
theorem Framed.unstarted (h : Framed s s') : Unstarted s s' where
  boundTasks := h.boundTasks
  adhocTasks := h.adhocTasks
  tasks ref := by rw [h.tasks]
  held ref hmem := by
    rw [MContext.held, h.pActiveTask, h.scheduler] at hmem
    exact hmem
  scheduler n hmem := h.scheduler ▸ hmem
  log n hmem := h.log ▸ hmem

theorem Aside.unstarted (h : Aside s s') : Unstarted s s' where
  boundTasks := h.boundTasks
  adhocTasks := h.adhocTasks
  tasks ref := by rw [h.tasks]
  held ref hmem := by
    rw [MContext.held, h.pActiveTask, h.scheduler] at hmem
    exact hmem
  scheduler n hmem := h.scheduler ▸ hmem
  log n hmem := by
    obtain ⟨entries, hlog, haside⟩ := h.log
    rw [hlog] at hmem
    rcases List.mem_append.mp hmem with hmem | hmem
    · exact hmem
    · exact (haside _ hmem).elim

theorem isRecurring_update {task : IMasterTask}
    (hrecurs : task.body.isRecurring = (s.tasks ref).body.isRecurring) (ref' : TaskRef) :
    (Function.update s.tasks ref task ref').body.isRecurring =
      (s.tasks ref').body.isRecurring := by
  by_cases heq : ref' = ref
  · subst heq
    simpa using hrecurs
  · simp [heq]

theorem taskStart_notMem_endEntries {task : IMasterTask} {ref ref' : TaskRef}
    {result : TaskCompletion} : .taskStart ref' ∉ endEntries task ref result := by
  unfold endEntries
  cases task.body.completionCallback result <;> simp

/-- A move starts only a task that waits, and it does not wait any longer. -/
theorem StartsOnce.move (h : s.StartsOnce) (haccounts : s.Accounts) (hmove : Move a s s') :
    s'.StartsOnce := by
  cases hmove with
  | frame hframed => exact h.unstarted hframed.unstarted
  | traffic htraffic => exact h.unstarted (aside_note s htraffic.isAside).unstarted
  | progress hactive hbody =>
    refine h.unstarted ⟨rfl, rfl, fun ref' => ?_, fun _ hmem => hmem, fun _ hmem => hmem,
      fun _ hmem => hmem⟩
    exact isRecurring_update hbody.isRecurring ref'
  | start hidle hperm =>
    rename_i ref rest
    have hrecurs (ref' : TaskRef) : ((s.started ref rest).tasks ref').body.isRecurring =
        (s.tasks ref').body.isRecurring :=
      isRecurring_update (TaskBody.sameClass_onStart _).isRecurring ref'
    have hlog : (s.started ref rest).log = s.log ++ [Entry.taskStart ref] := rfl
    have hheld {ref' : TaskRef} (hmem : ref' ∈ (s.started ref rest).held) : ref' ∈ s.held :=
      List.mem_append_right _ (hperm.mem_iff.mpr hmem)
    refine ⟨?_, ?_, fun n hmem => h.bound n (hheld hmem), ?_, ?_⟩
    · intro ref' hmem
      rw [hrecurs]
      exact h.session ref' hmem
    · intro ref' hmem
      rw [hrecurs]
      exact h.held ref' (hheld hmem)
    · intro n hstarted hwaits
      have hwaits : .adhoc n ∈ rest := hwaits
      have hbefore : .adhoc n ∈ s.scheduler := hperm.mem_iff.mpr (List.mem_cons_of_mem _ hwaits)
      rw [hlog, List.mem_append, List.mem_singleton] at hstarted
      rcases hstarted with hstarted | hstarted
      · exact h.once n hstarted hbefore
      · -- the task that starts waited only once
        obtain rfl : TaskRef.adhoc n = ref := by simpa using hstarted
        have hcount : s.scheduler.count (.adhoc n) ≤ 1 := by
          have hone := haccounts.atMostOnce n
          rw [accounted, MContext.held, List.count_append] at hone
          omega
        have hpos : 0 < rest.count (.adhoc n) := List.count_pos_iff.mpr hwaits
        rw [hperm.count_eq, List.count_cons_self] at hcount
        omega
    · intro n hstarted
      rw [hlog, List.mem_append, List.mem_singleton] at hstarted
      rcases hstarted with hstarted | hstarted
      · exact h.made n hstarted
      · obtain rfl : TaskRef.adhoc n = ref := by simpa using hstarted
        refine haccounts.madeFirst.made (List.mem_append_right _ ?_)
        exact hperm.mem_iff.mpr List.mem_cons_self
  | finish hactive result =>
    rename_i ref
    obtain ⟨timer, hfinish⟩ := finish_eq hactive result
    rw [hfinish]
    have hmade (n : Nat) (heq : ref = .adhoc n) : (s.tasks ref).body.isRecurring = false := by
      subst heq
      exact haccounts.runOnce n (haccounts.madeFirst.made (by simp [MContext.held, hactive]))
    refine h.unstarted ⟨rfl, rfl, isRecurring_update rfl, ?_, ?_, ?_⟩
    · intro ref' hmem
      simp only [MContext.held, Option.toList_none, List.nil_append, List.mem_append] at hmem
      rcases hmem with hmem | hmem
      · exact List.mem_append_right _ hmem
      · split at hmem
        · obtain rfl : ref' = ref := by simpa using hmem
          simp [MContext.held, hactive]
        · cases hmem
    · intro n hmem
      rcases List.mem_append.mp hmem with hmem | hmem
      · exact hmem
      · split at hmem
        next hrecurs =>
          obtain rfl : TaskRef.adhoc n = ref := by simpa using hmem
          rw [hmade n rfl] at hrecurs
          cases hrecurs
        · cases hmem
    · intro n hmem
      exact (List.mem_append.mp hmem).resolve_right taskStart_notMem_endEntries
  | timeout hwaits honce =>
    rename_i ref
    rw [timedOut_eq]
    refine h.unstarted ⟨rfl, rfl, isRecurring_update rfl, ?_,
      fun n hmem => List.mem_of_mem_erase hmem, ?_⟩
    · intro ref' hmem
      rcases List.mem_append.mp hmem with hmem | hmem
      · exact List.mem_append_left _ hmem
      · exact List.mem_append_right _ (List.mem_of_mem_erase hmem)
    · intro n hmem
      exact (List.mem_append.mp hmem).resolve_right taskStart_notMem_endEntries

theorem StartsOnce.moves (h : s.StartsOnce) (haccounts : s.Accounts) (hmoves : Moves a s s') :
    s'.StartsOnce := by
  have hboth : s'.StartsOnce ∧ s'.Accounts := by
    refine hmoves.keeps (I := fun s => s.StartsOnce ∧ s.Accounts) (fun s s' hmove h => ?_)
      ⟨h, haccounts⟩
    exact ⟨h.1.move h.2 hmove, h.2.moves hmove.moves⟩
  exact hboth.1

theorem unstarted_demand (s : MContext) (ref : TaskRef) : Unstarted s (s.demand ref) := by
  rw [demand_eq]
  refine ⟨rfl, rfl, isRecurring_update rfl, fun _ hmem => hmem, fun _ hmem => hmem,
    fun n hmem => ?_⟩
  exact (List.mem_append.mp hmem).resolve_right (by simp)

theorem StartsOnce.processIIN (h : s.StartsOnce) (iin : IINField) :
    (s.processIIN iin).StartsOnce := by
  unfold MContext.processIIN
  generalize demanded s.params iin = refs
  induction refs generalizing s with
  | nil => exact h
  | cons ref refs ih => exact ih (h.unstarted (unstarted_demand s ref))

/-- The tasks of a session recur, so they may start again. -/
theorem StartsOnce.wentUp (h : s.StartsOnce) : s.wentUp.StartsOnce := by
  obtain ⟨timer, hup⟩ := wentUp_eq s
  rw [hup]
  have hheld {ref : TaskRef}
      (hmem : ref ∈ s.pActiveTask.toList ++ (s.scheduler ++ s.sessionTasks)) :
      ref ∈ s.held ∨ ref ∈ s.sessionTasks := by
    rwa [← List.append_assoc, List.mem_append] at hmem
  refine ⟨h.session, ?_, ?_, ?_, ?_⟩
  · intro ref hmem
    exact (hheld hmem).elim (h.held ref) fun hmem => .inr (h.session ref hmem)
  · intro n hmem
    exact (hheld hmem).elim (h.bound n) fun hmem => by simpa [sessionTasks] using hmem
  · intro n hstarted hwaits
    have hstarted : .taskStart (.adhoc n) ∈ s.log := by simpa using hstarted
    rcases List.mem_append.mp hwaits with hwaits | hwaits
    · exact h.once n hstarted hwaits
    · exact adhoc_notMem_sessionTasks s n hwaits
  · intro n hstarted
    exact h.made n (by simpa using hstarted)

/-- Nothing waits any longer when the layer goes down. -/
theorem StartsOnce.wentDown (h : s.StartsOnce) : (s.wentDown a).StartsOnce := by
  obtain ⟨timer, hlog⟩ : ∃ entries, (s.wentDown a).log = s.log ++ entries ∧
      ∀ ref, .taskStart ref ∉ entries := by
    cases hactive : s.pActiveTask with
    | none =>
      refine ⟨[.down], ?_, by simp⟩
      rw [MContext.wentDown, cutOff_none hactive]
      rfl
    | some ref =>
      refine ⟨endEntries (s.tasks ref) ref .failureNoComms ++ [Entry.down], ?_, fun ref' hmem => ?_⟩
      · rw [MContext.wentDown, note_eq, ← List.append_assoc, ← log_cutOff hactive]
      · rcases List.mem_append.mp hmem with hmem | hmem
        · exact taskStart_notMem_endEntries hmem
        · simp at hmem
  refine h.unstarted ⟨?_, adhocTasks_wentDown s a, fun ref => ?_, ?_, ?_, fun n hmem => ?_⟩
  · unfold MContext.wentDown cutOff
    cases s.pActiveTask <;> simp [endTask_eq]
  · exact congrArg TaskBody.isRecurring (body_cutOff s a ref)
  · simp [MContext.wentDown, MContext.held]
  · simp [MContext.wentDown]
  · rw [hlog.1] at hmem
    exact (List.mem_append.mp hmem).resolve_right (hlog.2 _)

/-- A new task has not started yet. -/
theorem StartsOnce.addAdhoc (h : s.StartsOnce) (haccounts : s.Accounts) (a : Surroundings)
    (request : UserRequest) : (s.addAdhoc a request).StartsOnce := by
  have hlog {n : Nat} (hmem : .taskStart (.adhoc n) ∈ (s.addAdhoc a request).log) :
      .taskStart (.adhoc n) ∈ s.log := by
    simpa [MContext.addAdhoc] using hmem
  have hother {ref : TaskRef} (hne : ref ≠ .adhoc s.adhocTasks) :
      (s.addAdhoc a request).tasks ref = s.tasks ref := by
    simp [MContext.addAdhoc, hne]
  refine ⟨?_, ?_, h.bound, ?_, ?_⟩
  · intro ref hmem
    have hne : ref ≠ .adhoc s.adhocTasks := by
      rintro rfl
      exact adhoc_notMem_sessionTasks s _ hmem
    rw [hother hne]
    exact h.session ref hmem
  · intro ref hmem
    have hmem : ref ∈ s.held := hmem
    have hne : ref ≠ .adhoc s.adhocTasks := by
      rintro rfl
      exact Nat.lt_irrefl _ (haccounts.madeFirst.made hmem)
    rw [hother hne]
    exact h.held ref hmem
  · intro n hstarted
    exact h.once n (hlog hstarted)
  · intro n hstarted
    exact Nat.lt_succ_of_lt (h.made n (hlog hstarted))

/-- A new task of the user has a number that nobody had before. -/
theorem StartsOnce.scheduleAdhoc (h : s.StartsOnce) (haccounts : s.Accounts) (a : Surroundings)
    (request : UserRequest) :
    ((s.addAdhoc a request).schedule (.adhoc s.adhocTasks)).StartsOnce := by
  have hadded := h.addAdhoc haccounts a request
  have hheld {ref : TaskRef}
      (hmem : ref ∈ ((s.addAdhoc a request).schedule (.adhoc s.adhocTasks)).held) :
      ref ∈ (s.addAdhoc a request).held ∨ ref = .adhoc s.adhocTasks := by
    simpa [MContext.held, schedule, recalculateTaskStartTimeout, or_assoc] using hmem
  refine ⟨hadded.session, ?_, ?_, ?_, hadded.made⟩
  · intro ref hmem
    rcases hheld hmem with hmem | rfl
    · exact hadded.held ref hmem
    · exact .inl rfl
  · intro n hmem
    rcases hheld hmem with hmem | hmem
    · exact hadded.bound n hmem
    · cases hmem
  · intro n hstarted hwaits
    rcases List.mem_append.mp hwaits with hwaits | hwaits
    · exact hadded.once n hstarted hwaits
    · obtain rfl : n = s.adhocTasks := by simpa using hwaits
      have hstarted : .taskStart (.adhoc s.adhocTasks) ∈ s.log := by
        simpa [MContext.addAdhoc, schedule, recalculateTaskStartTimeout] using hstarted
      exact Nat.lt_irrefl _ (h.made _ hstarted)

theorem StartsOnce.endTask (h : s.StartsOnce) (ref : TaskRef) (result : TaskCompletion) :
    (s.endTask a ref result).StartsOnce := by
  rw [endTask_eq]
  refine h.unstarted ⟨rfl, rfl, isRecurring_update rfl, fun _ hmem => hmem, fun _ hmem => hmem, ?_⟩
  exact fun n hmem => (List.mem_append.mp hmem).resolve_right taskStart_notMem_endEntries

/-- A new scan recurs. -/
theorem StartsOnce.addScan (h : s.StartsOnce) (period : Int) : (s.addScan period).StartsOnce := by
  set task : IMasterTask := .ofBody (.userPoll true period 0) with htask
  set s₁ : MContext := { s with
    boundTasks := s.boundTasks + 1
    tasks := Function.update s.tasks (.bound s.boundTasks) task } with hs₁
  have hnew : (s₁.tasks (.bound s.boundTasks)).body.isRecurring = true := by
    simp [hs₁, htask, IMasterTask.ofBody, TaskBody.isRecurring]
  have hsession : ∀ ref ∈ s₁.sessionTasks, (s₁.tasks ref).body.isRecurring = true := by
    intro ref hmem
    by_cases heq : ref = .bound s.boundTasks
    · rw [heq]
      exact hnew
    · have hmem : ref ∈ s.sessionTasks ++ [TaskRef.bound s.boundTasks] := by
        simpa [hs₁, sessionTasks, List.range_succ] using hmem
      have hmem : ref ∈ s.sessionTasks := by simpa [heq] using hmem
      simpa [hs₁, heq] using h.session ref hmem
  have hheld : ∀ ref ∈ s₁.held, ref.isAdhoc = true ∨ (s₁.tasks ref).body.isRecurring = true := by
    intro ref hmem
    have hmem : ref ∈ s.held := hmem
    have hne : ref ≠ .bound s.boundTasks := by
      rintro rfl
      exact Nat.lt_irrefl _ (h.bound _ hmem)
    simpa [hs₁, hne] using h.held ref hmem
  have hbound : ∀ n, .bound n ∈ s.held → n < s.boundTasks + 1 :=
    fun n hmem => Nat.lt_succ_of_lt (h.bound n hmem)
  unfold MContext.addScan
  dsimp only
  split
  · have hheld' {ref : TaskRef} (hmem : ref ∈ (s₁.schedule (.bound s.boundTasks)).held) :
        ref ∈ s.held ∨ ref = .bound s.boundTasks := by
      simpa [hs₁, MContext.held, schedule, recalculateTaskStartTimeout, or_assoc] using hmem
    refine ⟨hsession, ?_, ?_, ?_, h.made⟩
    · intro ref hmem
      rcases hheld' hmem with hmem | rfl
      · exact hheld ref hmem
      · exact .inr hnew
    · intro n hmem
      rcases hheld' hmem with hmem | hmem
      · exact hbound n hmem
      · cases hmem
        exact Nat.lt_succ_self _
    · intro n hstarted hwaits
      have hwaits : .adhoc n ∈ s.scheduler := by
        simpa [hs₁, schedule, recalculateTaskStartTimeout, postCheckForTask] using hwaits
      exact h.once n hstarted hwaits
  · exact ⟨hsession, hheld, hbound, h.once, h.made⟩

theorem startsOnce_initial (params : MasterParams) : (initial params).StartsOnce := by
  refine ⟨?_, ?_, ?_, ?_, ?_⟩
  · simp [initial, sessionTasks, initialTasks, IMasterTask.ofBody, TaskBody.isRecurring]
  all_goals simp [initial, MContext.held]

/-- Every event of a settled master keeps it. -/
theorem StartsOnce.step (h : s.StartsOnce) (hsettled : s.Settled) (haccounts : s.Accounts)
    (e : Event × Surroundings) : (s.step e).StartsOnce := by
  have hcase := hsettled.step_cases e
  generalize s.step e = s' at hcase
  cases hcase with
  | moves hmoves => exact h.moves haccounts hmoves
  | up _ => exact h.wentUp
  | down _ => exact h.wentDown
  | sent _ hmoves =>
    have hsent : Framed s { s with isSending := false } := by constructor <;> rfl
    have haside := aside_checkConfirmTransmit { s with isSending := false }
    refine ((h.unstarted hsent.unstarted).unstarted haside.unstarted).moves ?_ hmoves
    exact (haccounts.undisturbed hsent.undisturbed).undisturbed
      (undisturbed_checkConfirmTransmit _)
  | ignored _ _ => exact h.unstarted (aside_noteReceived s _ _).unstarted
  | responded honline hparse hresponded =>
    rename_i apdu a header s'
    obtain ⟨hbefore, hconfirms, hafter⟩ := handled_respondedTo hresponded
    have haccounts₀ := haccounts.undisturbed (undisturbed_noteReceived s header (apdu.drop 4))
    have haccounts₁ := haccounts₀.moves hbefore
    have h₀ := h.unstarted (aside_noteReceived s header (apdu.drop 4)).unstarted
    have h₁ := (h₀.moves haccounts₀ hbefore).unstarted hconfirms.aside.unstarted
    exact (h₁.moves (haccounts₁.undisturbed hconfirms.undisturbed) hafter).processIIN _
  | demand hposted =>
    rename_i a scan rest
    have hrest : Unstarted s { s with posted := rest } :=
      ⟨rfl, rfl, fun _ => rfl, fun _ hmem => hmem, fun _ hmem => hmem, fun _ hmem => hmem⟩
    exact (h.unstarted hrest).unstarted (unstarted_demand _ _)
  | adhoc honline hmoves =>
    exact (h.scheduleAdhoc haccounts _ _).moves (haccounts.scheduleAdhoc honline _ _).1 hmoves
  | refused _ => exact (h.addAdhoc haccounts _ _).endTask _ _
  | addScan => exact h.addScan _
  | demandScan _ =>
    exact h.unstarted ⟨rfl, rfl, fun _ => rfl, fun _ hmem => hmem, fun _ hmem => hmem,
      fun _ hmem => hmem⟩

end MContext
end Master
end Dnp3
