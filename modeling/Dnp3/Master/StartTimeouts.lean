import Dnp3.Master.MasterContext

/-!
# The timer for tasks that do not start

Tasks that run once have a time by which they have to start.  The scheduler has one timer for all of
them: `Schedule` sets it to the earliest of these times, and when it fires the tasks whose time has
come fail.  It is not set again for those that stay, so they wait without a timer until another task
is scheduled.

`Armed` says that the timer is set to a time no later than that by which any of the tasks has to
start.  It is set anew when a task is added.  When it fires, the tasks that are late fail and the
timer stays off, also when there are others that have to start later: `armed_step_iff` says that
this is the only step that leaves a task without a timer, and `start_timeout_armed` that a run is
right exactly when the timer always fires after the times of all tasks.  `startTimeouts_step` ties
the model to the scheduler of the master.
-/

namespace Dnp3
namespace Master

open Library

/-! ## The scheduler with its timer -/

/-- The tasks of a scheduler, and the time its filter's timer is set to. -/
structure StartTimeouts (τ : Type*) where
  tasks : List τ
  timer : Option Int

namespace StartTimeouts

variable {τ : Type*} (isRecurring : τ → Bool) (startExpirationTime : τ → Int)

/-- An operation, at some time. -/
inductive Operation (τ : Type*) where
  | schedule (task : τ)
  | getNext (view : τ → TaskView)
  /-- The timer fires, if it is due. -/
  | checkTaskStartTimeout

/-- The earliest time by which a task has to start. -/
def earliestStart (tasks : List τ) : Int :=
  tasks.foldl (fun min task =>
    if !isRecurring task && startExpirationTime task < min then startExpirationTime task
    else min) MonotonicTimestamp.max

/-- The timer is set to the earliest time that a task has to start at. -/
def recalculateTaskStartTimeout (s : StartTimeouts τ) : StartTimeouts τ :=
  { s with timer := some (earliestStart isRecurring startExpirationTime s.tasks) }

/-- A task is added, and the timer set again. -/
def schedule (s : StartTimeouts τ) (task : τ) : StartTimeouts τ :=
  { s with tasks := s.tasks ++ [task] }.recalculateTaskStartTimeout isRecurring startExpirationTime

/-- A task that is due is taken, and the timer stays as it is. -/
def getNext (s : StartTimeouts τ) (view : τ → TaskView) (now : Int) : StartTimeouts τ :=
  match MasterScheduler.getNext view now s.tasks with
  | .start _ tasks => { s with tasks := tasks }
  | .wait _ => s

/-- A task that is done once has not started in time. -/
def isTimedOut (now : Int) (task : τ) : Bool :=
  !(isRecurring task || startExpirationTime task > now)

/-- The tasks that have not started in time fail, and the timer stays as it is. -/
def checkTaskStartTimeout (s : StartTimeouts τ) (now : Int) : StartTimeouts τ :=
  { s with
    tasks := s.tasks.filter fun task => !isTimedOut isRecurring startExpirationTime now task }

/-- The time that the timer is set to has come. -/
def isDue (s : StartTimeouts τ) (now : Int) : Bool := s.timer.any (· ≤ now)

/-- The scheduler is asked for something at a time. -/
def step (s : StartTimeouts τ) (e : Operation τ × Int) : StartTimeouts τ :=
  match e.1 with
  | .schedule task => s.schedule isRecurring startExpirationTime task
  | .getNext view => s.getNext view e.2
  | .checkTaskStartTimeout =>
    if s.isDue e.2 then
      { s with timer := none }.checkTaskStartTimeout isRecurring startExpirationTime e.2
    else s

/-- No task, and no timer. -/
def initial : StartTimeouts τ := ⟨[], none⟩

/-! ## The time of the timer -/

/-- A task that runs once and has to start some time. -/
def HasStartExpiration (task : τ) : Prop :=
  isRecurring task = false ∧ startExpirationTime task < MonotonicTimestamp.max

instance (task : τ) : Decidable (HasStartExpiration isRecurring startExpirationTime task) :=
  inferInstanceAs (Decidable (_ ∧ _))

/-- The timer is set to a time no later than that by which any of the tasks has to start. -/
def Armed (s : StartTimeouts τ) : Prop :=
  ∀ task ∈ s.tasks, HasStartExpiration isRecurring startExpirationTime task →
    ∃ time, s.timer = some time ∧ time ≤ startExpirationTime task

/-- When the timer fires, every task that has to start some time is timed out. -/
def LeavesNone (s : StartTimeouts τ) (e : Operation τ × Int) : Prop :=
  match e.1 with
  | .checkTaskStartTimeout => s.isDue e.2 = true → ∀ task ∈ s.tasks,
      HasStartExpiration isRecurring startExpirationTime task → startExpirationTime task ≤ e.2
  | _ => True

instance (s : StartTimeouts τ) :
    (e : Operation τ × Int) → Decidable (s.LeavesNone isRecurring startExpirationTime e)
  | (.checkTaskStartTimeout, now) => inferInstanceAs (Decidable (s.isDue now = true →
      ∀ task ∈ s.tasks, HasStartExpiration isRecurring startExpirationTime task →
        startExpirationTime task ≤ now))
  | (.schedule _, _) | (.getNext _, _) => .isTrue trivial

/-- The timer does not fire late: nothing else happens when it is due. -/
def Prompt (s : StartTimeouts τ) (e : Operation τ × Int) : Prop :=
  match e.1 with
  | .checkTaskStartTimeout => ∀ time, s.timer = some time → e.2 ≤ time
  | _ => s.isDue e.2 = false

/-- No task is there past the time by which it has to start. -/
def NoneOverdue (s : StartTimeouts τ) (e : Operation τ × Int) : Prop :=
  ∀ task ∈ s.tasks, HasStartExpiration isRecurring startExpirationTime task →
    e.2 ≤ startExpirationTime task

variable {isRecurring startExpirationTime}

/-- The earliest time is not after that of any task, nor after what the fold begins with. -/
theorem foldl_earliest_le (tasks : List τ) (min : Int) :
    let earliest := tasks.foldl (fun min task =>
      if !isRecurring task && startExpirationTime task < min then startExpirationTime task
      else min) min
    earliest ≤ min ∧
      ∀ task ∈ tasks, isRecurring task = false → earliest ≤ startExpirationTime task := by
  induction tasks generalizing min with
  | nil => exact ⟨le_refl _, fun task htask => by cases htask⟩
  | cons task tasks ih =>
    obtain ⟨hle, hall⟩ := ih (if !isRecurring task && startExpirationTime task < min then
      startExpirationTime task else min)
    have hfirst : (if !isRecurring task && startExpirationTime task < min then
        startExpirationTime task else min) ≤ min ∧
        (isRecurring task = false →
          (if !isRecurring task && startExpirationTime task < min then
            startExpirationTime task else min) ≤ startExpirationTime task) := by
      split
      next hsmaller =>
        rw [Bool.and_eq_true, decide_eq_true_eq] at hsmaller
        exact ⟨hsmaller.2.le, fun _ => le_refl _⟩
      next hnot =>
        refine ⟨le_refl _, fun honce => ?_⟩
        rw [honce, Bool.not_false, Bool.true_and, decide_eq_true_eq, not_lt] at hnot
        exact hnot
    refine ⟨hle.trans hfirst.1, ?_⟩
    rintro other hother honce
    rcases List.mem_cons.mp hother with rfl | hmem
    · exact hle.trans (hfirst.2 honce)
    · exact hall other hmem honce

theorem armed_initial : (initial : StartTimeouts τ).Armed isRecurring startExpirationTime :=
  fun task htask => by cases htask

theorem armed_schedule (s : StartTimeouts τ) (task : τ) :
    (s.schedule isRecurring startExpirationTime task).Armed isRecurring startExpirationTime :=
  fun other hother hstarts => ⟨_, rfl, (foldl_earliest_le _ _).2 other hother hstarts.1⟩

/-- With fewer tasks and the same timer nothing is lost. -/
theorem Armed.of_subset {s s' : StartTimeouts τ} (h : s.Armed isRecurring startExpirationTime)
    (htasks : s'.tasks ⊆ s.tasks) (htimer : s'.timer = s.timer) :
    s'.Armed isRecurring startExpirationTime := by
  intro task htask hstarts
  rw [htimer]
  exact h task (htasks htask) hstarts

theorem Armed.getNext {s : StartTimeouts τ} (h : s.Armed isRecurring startExpirationTime)
    (view : τ → TaskView) (now : Int) :
    (s.getNext view now).Armed isRecurring startExpirationTime := by
  unfold StartTimeouts.getNext
  cases hnext : MasterScheduler.getNext view now s.tasks with
  | start task tasks =>
    have hperm := MasterScheduler.getNext_start_perm hnext
    exact h.of_subset (fun other hother => hperm.mem_iff.mp (List.mem_cons_of_mem task hother)) rfl
  | wait next => exact h

/-- After the timer has fired it is off, so what stays has to have no time to start by. -/
theorem armed_checkTaskStartTimeout {s : StartTimeouts τ} (now : Int) :
    ({ s with timer := none }.checkTaskStartTimeout isRecurring startExpirationTime now).Armed
        isRecurring startExpirationTime ↔
      ∀ task ∈ s.tasks, HasStartExpiration isRecurring startExpirationTime task →
        startExpirationTime task ≤ now := by
  constructor
  · intro h task htask hstarts
    by_contra hlater
    have hstays : task ∈ s.tasks.filter fun task =>
        !isTimedOut isRecurring startExpirationTime now task := by
      refine List.mem_filter.mpr ⟨htask, ?_⟩
      rw [isTimedOut, Bool.not_not, Bool.or_eq_true, decide_eq_true_eq]
      exact .inr (not_le.mp hlater)
    obtain ⟨time, htime, -⟩ := h task hstays hstarts
    cases htime
  · intro h task htask hstarts
    obtain ⟨hmem, hstays⟩ := List.mem_filter.mp htask
    rw [isTimedOut, Bool.not_not, Bool.or_eq_true, decide_eq_true_eq, hstarts.1] at hstays
    rcases hstays with hrecurs | hlater
    · cases hrecurs
    · exact absurd hlater (not_lt.mpr (h task hmem hstarts))

/-! ## Runs -/

/-- A step leaves the timer set exactly when it does not fire before the time of a task that
stays. -/
theorem armed_step_iff {s : StartTimeouts τ} (h : s.Armed isRecurring startExpirationTime)
    (e : Operation τ × Int) :
    (s.step isRecurring startExpirationTime e).Armed isRecurring startExpirationTime ↔
      s.LeavesNone isRecurring startExpirationTime e := by
  obtain ⟨operation, now⟩ := e
  cases operation with
  | schedule task => exact iff_of_true (armed_schedule s task) trivial
  | getNext view => exact iff_of_true (h.getNext view now) trivial
  | checkTaskStartTimeout =>
    unfold step LeavesNone
    dsimp only
    by_cases hdue : s.isDue now = true
    · rw [if_pos hdue, armed_checkTaskStartTimeout, imp_iff_right hdue]
    · rw [if_neg hdue]
      exact iff_of_true h fun hdue' => absurd hdue' hdue

/-- While the timer is set and does not fire late, no task is overdue. -/
theorem Armed.noneOverdue {s : StartTimeouts τ} (h : s.Armed isRecurring startExpirationTime)
    {e : Operation τ × Int} (hprompt : s.Prompt e) :
    s.NoneOverdue isRecurring startExpirationTime e := by
  intro task htask hstarts
  obtain ⟨time, htime, hle⟩ := h task htask hstarts
  obtain ⟨operation, now⟩ := e
  cases operation with
  | checkTaskStartTimeout => exact (hprompt time htime).trans hle
  | schedule _ | getNext _ =>
    have hdue : s.isDue now = false := hprompt
    rw [isDue, htime, Option.any_some, decide_eq_false_iff_not, not_le] at hdue
    exact hdue.le.trans hle

end StartTimeouts

/-- In every run the timer is set in time in every state, and no task is overdue if the timer does
not fire late, exactly when the timer never fires before the time of a task that stays. -/
theorem start_timeout_armed {τ : Type*} (isRecurring : τ → Bool) (startExpirationTime : τ → Int)
    (operations : List (StartTimeouts.Operation τ × Int)) :
    (Always (StartTimeouts.step isRecurring startExpirationTime)
        (StartTimeouts.Armed isRecurring startExpirationTime) .initial operations ∧
      (Throughout (StartTimeouts.step isRecurring startExpirationTime) StartTimeouts.Prompt
          .initial operations →
        Throughout (StartTimeouts.step isRecurring startExpirationTime)
          (StartTimeouts.NoneOverdue isRecurring startExpirationTime) .initial operations)) ↔
      Throughout (StartTimeouts.step isRecurring startExpirationTime)
        (StartTimeouts.LeavesNone isRecurring startExpirationTime) .initial operations := by
  constructor
  · rintro ⟨harmed, -⟩
    exact harmed.throughout fun s e h h' => (StartTimeouts.armed_step_iff h e).mp h'
  · intro hnone
    have hstep : ∀ s e, StartTimeouts.Armed isRecurring startExpirationTime s →
        s.LeavesNone isRecurring startExpirationTime e →
        (s.step isRecurring startExpirationTime e).Armed isRecurring startExpirationTime :=
      fun s e h he => (StartTimeouts.armed_step_iff h e).mpr he
    refine ⟨always_invariant hstep StartTimeouts.armed_initial hnone, fun hprompt => ?_⟩
    exact (hnone.and hprompt).imp (fun s e h he => hstep s e h he.1)
      (fun s e h he => h.noneOverdue he.2) StartTimeouts.armed_initial

/-- Of two tasks that have to start by 10 and by 20, the second one waits without a timer when the
timer has fired for the first one, and is there after its time. -/
theorem not_start_timeout_armed :
    ¬ Always (StartTimeouts.step (fun _ : Int => false) id)
        (StartTimeouts.Armed (fun _ => false) id)
      .initial [(.schedule 10, 0), (.schedule 20, 0), (.checkTaskStartTimeout, 10)] := by
  rintro ⟨-, -, -, h⟩
  obtain ⟨time, htime, -⟩ := h 20 (by decide +kernel) (by decide +kernel)
  cases htime

/-! ## The scheduler of the master -/

namespace MContext

/-- The scheduler of a master with its timer. -/
def startTimeouts (s : MContext) : StartTimeouts TaskRef := ⟨s.scheduler, s.taskStartTimeoutTimer⟩

/-- Whether a task of a master recurs. -/
def recurs (s : MContext) (ref : TaskRef) : Bool := (s.tasks ref).body.isRecurring

/-- By when a task of a master has to start. -/
def startsBy (s : MContext) (ref : TaskRef) : Int := (s.tasks ref).taskStartExpiration

theorem startTimeouts_schedule (s : MContext) (ref : TaskRef) :
    (s.schedule ref).startTimeouts = s.startTimeouts.schedule s.recurs s.startsBy ref := rfl

theorem startTimeouts_startTask {s : MContext} {a : Surroundings} {ref : TaskRef}
    {rest : List TaskRef}
    (h : MasterScheduler.getNext (s.taskView a) a.now s.scheduler = .start ref rest) :
    ({ s with pActiveTask := some ref, scheduler := rest } : MContext).startTimeouts =
      s.startTimeouts.getNext (s.taskView a) a.now := by
  unfold StartTimeouts.getNext startTimeouts
  dsimp only
  rw [h]

theorem startTimeouts_checkTaskStartTimeout (s : MContext) (a : Surroundings) :
    (s.checkTaskStartTimeout a).startTimeouts =
      s.startTimeouts.checkTaskStartTimeout s.recurs s.startsBy a.now := by
  have hended : ∀ (refs : List TaskRef) (s : MContext),
      (refs.foldl (fun s ref => s.endTask a ref .failureStartTimeout) s).taskStartTimeoutTimer =
        s.taskStartTimeoutTimer := by
    intro refs
    induction refs with
    | nil => exact fun s => rfl
    | cons ref refs ih =>
      intro s
      rw [List.foldl_cons, ih]
      unfold endTask
      dsimp only
      split <;> rfl
  exact congrArg (StartTimeouts.mk _) (hended _ s)

/-- The timer of a master fires like that of its scheduler. -/
theorem startTimeouts_step (s : MContext) (a : Surroundings) :
    (s.step (.taskStartTimeout, a)).startTimeouts =
      s.startTimeouts.step s.recurs s.startsBy (.checkTaskStartTimeout, a.now) := by
  show (if fired s.taskStartTimeoutTimer a then _ else s).startTimeouts =
    if s.startTimeouts.isDue a.now then _ else _
  have hfired : fired s.taskStartTimeoutTimer a = s.startTimeouts.isDue a.now := by
    unfold fired StartTimeouts.isDue startTimeouts
    cases s.taskStartTimeoutTimer <;> rfl
  rw [hfired]
  by_cases hdue : s.startTimeouts.isDue a.now = true
  · rw [if_pos hdue, if_pos hdue]
    exact startTimeouts_checkTaskStartTimeout { s with taskStartTimeoutTimer := none } a
  · rw [if_neg hdue, if_neg hdue]

end MContext
end Master
end Dnp3
