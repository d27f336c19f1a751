import Dnp3.Library.RunningBest
import Mathlib.Algebra.Group.Int.Defs
import Mathlib.Data.List.MinMax
import Mathlib.Data.List.Perm.Basic
import Mathlib.Data.Prod.Lex

/-!
# The master's scheduler

The scheduler looks for the next task with a running best under a pairwise comparison of enabled
state, blocking, expiration and priority.  The comparison is not transitive: a task that blocks a
lower priority one may itself lose to a task of higher priority that blocks nothing and comes later
than the lower one.  Where this does not happen, the scan finds the first of the tasks that nothing
blocks, in whatever order the tasks are.

`First` is a task that should go first: it is enabled, nothing blocks it, and no other such task
comes before it.  The order of the tasks in the list does not matter for it (`First.perm`), and two
first tasks have the same time and priority (`First.unique`).  `getNext_selection` says that a task
that starts is such a task when no blocked task overtakes one.  The comparison itself is restated in
the terms of an order by `before_iff`.
-/

namespace Dnp3
namespace Master

open Library

/-- The time that never comes, in milliseconds of a monotonic clock. -/
def MonotonicTimestamp.max : Int := 2 ^ 63 - 1

/-! ## Task priorities -/

namespace priority

/-- Changing session keys, which everything else needs. -/
def SESSION_KEY : Int := 50

/-- Commands. -/
def COMMAND : Int := 100

/-- Other requests of the user. -/
def USER_REQUEST : Int := 110

/-- Telling the outstation that its restart was noticed. -/
def CLEAR_RESTART : Int := 120

/-- Keeping the outstation from reporting before it was polled. -/
def DISABLE_UNSOLICITED : Int := 130

/-- Assigning points to classes. -/
def ASSIGN_CLASS : Int := 140

/-- Reading everything once. -/
def INTEGRITY_POLL : Int := 150

/-- Setting the clock of the outstation. -/
def TIME_SYNC : Int := 160

/-- Letting the outstation report. -/
def ENABLE_UNSOLICITED : Int := 170

/-- Reading events that the outstation has said it has. -/
def EVENT_SCAN : Int := 180

/-- Polls that the user has asked for. -/
def USER_POLL : Int := 190

end priority

/-- What the scheduler asks a task, and its filter about the task. -/
structure TaskView where
  /-- Lower numbers are higher priority. -/
  priority : Int
  blocksLowerPriority : Bool
  expirationTime : Int
  canRun : Bool
  deriving DecidableEq, Repr

/-! ## The comparison of two tasks -/

namespace TaskComparison

/-- Which of two tasks goes first. -/
inductive Result where
  | left
  | right
  | same
  deriving DecidableEq, Repr

/-- The task may be due at some time, and its filter lets it run. -/
def enabled (task : TaskView) : Bool :=
  !(task.expirationTime == MonotonicTimestamp.max) && task.canRun

/-- The task with the lower number. -/
def higherPriority (lhs rhs : TaskView) : Result :=
  if lhs.priority < rhs.priority then .left
  else if rhs.priority < lhs.priority then .right
  else .same

/-- Which of two tasks goes first, by what they block, when they are due and their priorities. -/
def selectHigherPriority (now : Int) (lhs rhs : TaskView) : Result :=
  let leftEnabled := enabled lhs
  let rightEnabled := enabled rhs
  if !leftEnabled || !rightEnabled then
    -- always prefer the enabled task over the one that is disabled
    if rightEnabled then .right else .left
  else if lhs.priority > rhs.priority && rhs.blocksLowerPriority then .right
  else if rhs.priority > lhs.priority && lhs.blocksLowerPriority then .left
  else
    let lhsExpired := lhs.expirationTime ≤ now
    let rhsExpired := rhs.expirationTime ≤ now
    if lhsExpired ∧ rhsExpired then higherPriority lhs rhs
    else if lhs.expirationTime < rhs.expirationTime then .left
    else if lhs.expirationTime > rhs.expirationTime then .right
    else higherPriority lhs rhs

end TaskComparison

/-! ## The next task -/

/-- What `GetNext` gives: a task to start, taken out of the list, or the time when the scheduler
should be asked again. -/
inductive NextTask (τ : Type*) where
  | start (task : τ) (tasks : List τ)
  | wait (next : Int)
  deriving DecidableEq, Repr

namespace MasterScheduler

variable {τ : Type*}

/-- The current task replaces the running best when it is selected on the right. -/
def replaces (view : τ → TaskView) (now : Int) (current best : τ) : Bool :=
  TaskComparison.selectHigherPriority now (view best) (view current) == .right

/-- The best task with its position, none for the end of the list. -/
def getNextTask (view : τ → TaskView) (now : Int) (tasks : List τ) :
    Option (τ × Nat) :=
  match tasks.zipIdx with
  | [] => none
  | first :: rest => some (runningBest (fun x b => replaces view now x.1 b.1) first rest)

/-- The task that goes first is taken if it is due; otherwise the scheduler waits for it. -/
def getNext (view : τ → TaskView) (now : Int) (tasks : List τ) : NextTask τ :=
  match getNextTask view now tasks with
  | none => .wait MonotonicTimestamp.max
  | some (task, elem) =>
    let expired := (view task).expirationTime ≤ now
    let canRun := (view task).canRun
    if expired ∧ canRun = true then .start task (tasks.eraseIdx elem)
    else .wait (if canRun then (view task).expirationTime else MonotonicTimestamp.max)

end MasterScheduler

/-! ## Who is selected -/

namespace TaskComparison

/-- When a task can start: its expiration, or now if that has passed. -/
def dueTime (now : Int) (task : TaskView) : Int :=
  if task.expirationTime ≤ now then now else task.expirationTime

/-- The order of tasks that do not block each other: by time, then by priority. -/
def Before (now : Int) (x y : TaskView) : Prop :=
  dueTime now x < dueTime now y ∨ (dueTime now x = dueTime now y ∧ x.priority < y.priority)

/-- The task is enabled, of strictly higher priority and blocks lower ones. -/
def Blocks (x y : TaskView) : Prop :=
  enabled x = true ∧ x.blocksLowerPriority = true ∧ x.priority < y.priority

instance (now : Int) (x y : TaskView) : Decidable (Before now x y) :=
  inferInstanceAs (Decidable (_ ∨ _))

instance (x y : TaskView) : Decidable (Blocks x y) := inferInstanceAs (Decidable (_ ∧ _))

variable {now : Int} {x y : TaskView}

theorem selectHigherPriority_disabled (hx : enabled x = false) :
    selectHigherPriority now x y = if enabled y then .right else .left := by
  simp [selectHigherPriority, hx]

theorem selectHigherPriority_right_disabled (hx : enabled x = true) (hy : enabled y = false) :
    selectHigherPriority now x y = .left := by
  simp [selectHigherPriority, hx, hy]

/-- Among enabled tasks the right one is selected if it blocks the left one, or comes before it and
is not blocked by it. -/
theorem selectHigherPriority_right_iff (hx : enabled x = true) (hy : enabled y = true) :
    selectHigherPriority now x y = .right ↔ Blocks y x ∨ (Before now y x ∧ ¬ Blocks x y) := by
  unfold selectHigherPriority Before Blocks dueTime higherPriority
  simp only [hx, hy, Bool.not_true, Bool.or_self, Bool.false_eq_true, if_false, true_and]
  by_cases h1 : y.priority < x.priority ∧ y.blocksLowerPriority = true
  · simp [h1]
  · by_cases h2 : x.priority < y.priority ∧ x.blocksLowerPriority = true
    · have : ¬ y.priority < x.priority := by omega
      simp [h2, this]
    · rw [if_neg (by simpa using h1), if_neg (by simpa using h2)]
      have h1' : ¬ (y.blocksLowerPriority = true ∧ y.priority < x.priority) := fun h => h1 h.symm
      have h2' : ¬ (x.blocksLowerPriority = true ∧ x.priority < y.priority) := fun h => h2 h.symm
      simp only [h1', h2', false_or, not_false_eq_true, and_true]
      split_ifs <;> simp only [true_iff, false_iff, eq_self, true_and] <;> omega

/-- Before and after are the two sides of the order by time and priority. -/
theorem before_iff : Before now x y ↔
    toLex (dueTime now x, x.priority) < toLex (dueTime now y, y.priority) := by
  rw [Prod.Lex.toLex_lt_toLex]
  rfl

theorem not_before_iff : ¬ Before now x y ↔
    toLex (dueTime now y, y.priority) ≤ toLex (dueTime now x, x.priority) := by
  rw [before_iff, not_lt]

theorem Before.not_symm (h : Before now x y) : ¬ Before now y x :=
  not_before_iff.mpr (before_iff.mp h).le

/-- What does not come before a task comes after everything the task comes after. -/
theorem Before.of_not_before {u : TaskView} (h : Before now u x) (hu : ¬ Before now u y) :
    Before now y x :=
  before_iff.mpr ((not_before_iff.mp hu).trans_lt (before_iff.mp h))

/-- Tasks of different priority are ordered one way or the other. -/
theorem before_or_before (h : x.priority ≠ y.priority) : Before now x y ∨ Before now y x := by
  unfold Before
  omega

end TaskComparison

namespace MasterScheduler

open TaskComparison

variable {τ : Type*} {view : τ → TaskView} {now : Int} {tasks tasks' : List τ} {w x : τ}

/-- An enabled task of the list has a strictly higher priority and blocks this one. -/
def Blocked (view : τ → TaskView) (tasks : List τ) (x : τ) : Prop :=
  ∃ a ∈ tasks, Blocks (view a) (view x)

/-- An enabled task of the list that nothing blocks, and no other such task comes before it. -/
structure First (view : τ → TaskView) (now : Int) (tasks : List τ) (w : τ) : Prop where
  mem : w ∈ tasks
  isEnabled : enabled (view w) = true
  unblocked : ¬ Blocked view tasks w
  first : ∀ u ∈ tasks, enabled (view u) = true → ¬ Blocked view tasks u →
    ¬ Before now (view u) (view w)

/-- A task that something blocks comes before the first of the tasks that nothing blocks, which does
not block it. -/
def Overtaken (view : τ → TaskView) (now : Int) (tasks : List τ) : Prop :=
  ∃ w z, First view now tasks w ∧ z ∈ tasks ∧ enabled (view z) = true ∧
    Blocked view tasks z ∧ Before now (view z) (view w) ∧ ¬ Blocks (view w) (view z)

theorem replaces_iff (hw : enabled (view w) = true) (hx : enabled (view x) = true) :
    replaces view now x w = true ↔
      Blocks (view x) (view w) ∨ (Before now (view x) (view w) ∧ ¬ Blocks (view w) (view x)) := by
  rw [replaces, beq_iff_eq, selectHigherPriority_right_iff hw hx]

theorem replaces_disabled (hw : enabled (view w) = false) :
    replaces view now x w = enabled (view x) := by
  rw [replaces, selectHigherPriority_disabled hw]
  cases enabled (view x) <;> rfl

theorem replaces_by_disabled (hw : enabled (view w) = true) (hx : enabled (view x) = false) :
    replaces view now x w = false := by
  rw [replaces, selectHigherPriority_right_disabled hw hx]
  rfl

/-- An enabled task that is not blocked wins against one that is, unless it is overtaken by it. -/
theorem wins_of_blocked (hw : enabled (view w) = true) (hub : ¬ Blocked view tasks w)
    (hxm : x ∈ tasks) (hx : enabled (view x) = true) (hbl : Blocked view tasks x)
    (hno : ¬ (Before now (view x) (view w) ∧ ¬ Blocks (view w) (view x))) :
    replaces view now x w = false ∧ replaces view now w x = true := by
  have hxw : ¬ Blocks (view x) (view w) := fun h => hub ⟨x, hxm, h⟩
  refine ⟨?_, ?_⟩
  · rw [Bool.eq_false_iff, Ne, replaces_iff hw hx]
    exact fun h => h.elim hxw hno
  · rw [replaces_iff hx hw]
    by_cases hwx : Blocks (view w) (view x)
    · exact .inl hwx
    · have hnb : ¬ Before now (view x) (view w) := fun h => hno ⟨h, hwx⟩
      obtain ⟨a, ha, hax⟩ := hbl
      -- what blocks the one task but not the other tells their priorities apart
      have hne : (view w).priority ≠ (view x).priority := fun h =>
        hub ⟨a, ha, hax.1, hax.2.1, h ▸ hax.2.2⟩
      exact .inr ⟨(before_or_before hne).resolve_right hnb, hxw⟩

/-- Of two tasks that nothing blocks the one that comes first wins. -/
theorem wins_of_before (hwm : w ∈ tasks) (hw : enabled (view w) = true)
    (hub : ¬ Blocked view tasks w) (hxm : x ∈ tasks) (hx : enabled (view x) = true)
    (hub' : ¬ Blocked view tasks x) (h : Before now (view w) (view x)) :
    replaces view now x w = false ∧ replaces view now w x = true := by
  have hxw : ¬ Blocks (view x) (view w) := fun h => hub ⟨x, hxm, h⟩
  have hwx : ¬ Blocks (view w) (view x) := fun h => hub' ⟨w, hwm, h⟩
  refine ⟨?_, ?_⟩
  · rw [Bool.eq_false_iff, Ne, replaces_iff hw hx]
    exact fun h' => h'.elim hxw fun h'' => h.not_symm h''.1
  · exact (replaces_iff hx hw).mpr (.inr ⟨h, hxw⟩)

/-- The first tasks win against all others. -/
theorem First.wins (hno : ¬ Overtaken view now tasks) (hw : First view now tasks w)
    (hxm : x ∈ tasks) (hx : ¬ First view now tasks x) :
    replaces view now x w = false ∧ replaces view now w x = true := by
  by_cases hxe : enabled (view x) = true
  · by_cases hbl : Blocked view tasks x
    · refine wins_of_blocked hw.isEnabled hw.unblocked hxm hxe hbl fun h => hno ?_
      exact ⟨w, x, hw, hxm, hxe, hbl, h.1, h.2⟩
    · have hu : ∃ u ∈ tasks, enabled (view u) = true ∧ ¬ Blocked view tasks u ∧
          Before now (view u) (view x) := by
        by_contra hall
        push Not at hall
        exact hx ⟨hxm, hxe, hbl, hall⟩
      obtain ⟨u, hum, hue, hub, hux⟩ := hu
      have hwx : Before now (view w) (view x) := hux.of_not_before (hw.first u hum hue hub)
      exact wins_of_before hw.mem hw.isEnabled hw.unblocked hxm hxe hbl hwx
  · have hxe' : enabled (view x) = false := by simpa using hxe
    exact ⟨replaces_by_disabled hw.isEnabled hxe', by rw [replaces_disabled hxe', hw.isEnabled]⟩

/-- An enabled task of the highest priority is not blocked. -/
theorem exists_unblocked (h : ∃ t ∈ tasks, enabled (view t) = true) :
    ∃ t ∈ tasks, enabled (view t) = true ∧ ¬ Blocked view tasks t := by
  obtain ⟨t, ht, hte⟩ := h
  have hne : tasks.filter (fun t => enabled (view t)) ≠ [] :=
    List.ne_nil_of_mem (List.mem_filter.mpr ⟨ht, hte⟩)
  obtain ⟨m, hm⟩ := Option.ne_none_iff_exists'.mp
    (mt (List.argmin_eq_none (f := fun t => (view t).priority)).mp hne)
  have hmem := List.mem_filter.mp (List.argmin_mem hm)
  refine ⟨m, hmem.1, hmem.2, fun ⟨a, ha, hae, _, hlt⟩ => ?_⟩
  have := List.le_of_mem_argmin (List.mem_filter.mpr ⟨ha, hae⟩) hm
  omega

theorem exists_first (h : ∃ t ∈ tasks, enabled (view t) = true) :
    ∃ w, First view now tasks w := by
  classical
  obtain ⟨t, ht, hte, htb⟩ := exists_unblocked h
  let p : τ → Bool := fun t => enabled (view t) && decide (¬ Blocked view tasks t)
  have hp : ∀ t, p t = true ↔ enabled (view t) = true ∧ ¬ Blocked view tasks t := fun t => by
    simp only [p, Bool.and_eq_true, decide_eq_true_eq]
  have hne : tasks.filter p ≠ [] :=
    List.ne_nil_of_mem (List.mem_filter.mpr ⟨ht, (hp t).mpr ⟨hte, htb⟩⟩)
  obtain ⟨m, hm⟩ := Option.ne_none_iff_exists'.mp
    (mt (List.argmin_eq_none (f := fun t => toLex (dueTime now (view t), (view t).priority))).mp hne)
  have hmem := List.mem_filter.mp (List.argmin_mem hm)
  obtain ⟨hme, hmb⟩ := (hp m).mp hmem.2
  refine ⟨m, hmem.1, hme, hmb, fun u hu hue hub => not_before_iff.mpr ?_⟩
  exact List.le_of_mem_argmin (f := fun t => toLex (dueTime now (view t), (view t).priority))
    (List.mem_filter.mpr ⟨hu, (hp u).mpr ⟨hue, hub⟩⟩) hm

/-! ## The task `GetNext` returns -/

/-- The scan is one over the tasks, the positions only say where the best one stands. -/
theorem getNextTask_eq (view : τ → TaskView) (now : Int) (t : τ) (ts : List τ) : ∃ i,
    getNextTask view now (t :: ts) = some (runningBest (replaces view now) t ts, i) := by
  have h := runningBest_map (replaces view now) (Prod.fst : τ × Nat → τ) (t, 0)
    (ts.zipIdx 1)
  rw [List.zipIdx_map_fst] at h
  exact ⟨_, by rw [getNextTask, List.zipIdx_cons, ← h]⟩

/-- The best task stands at its position. -/
theorem getNextTask_getElem? {t : τ} {i : Nat} (h : getNextTask view now tasks = some (t, i)) :
    tasks[i]? = some t := by
  unfold getNextTask at h
  split at h
  · cases h
  · rename_i first rest heq
    have hm := runningBest_mem (fun x b => replaces view now x.1 b.1) first rest
    rw [Option.some.inj h, ← heq, List.mem_zipIdx_iff_getElem?] at hm
    exact hm

/-- The task that is taken up and the rest are the tasks of the list. -/
theorem getNext_start_perm {t : τ} {rest : List τ}
    (h : getNext view now tasks = .start t rest) : (t :: rest).Perm tasks := by
  unfold getNext at h
  split at h
  · cases h
  · rename_i t' i hbest
    dsimp only at h
    split at h
    · cases h
      obtain ⟨hi, rfl⟩ := List.getElem?_eq_some_iff.mp (getNextTask_getElem? hbest)
      exact List.getElem_cons_eraseIdx_perm hi
    · cases h

/-- A task that starts is due and can run. -/
theorem getNext_start_due {t : τ} {rest : List τ} (h : getNext view now tasks = .start t rest) :
    (view t).expirationTime ≤ now ∧ (view t).canRun = true := by
  unfold getNext at h
  split at h
  · cases h
  · dsimp only at h
    split at h
    · rename_i hdue
      cases h
      exact hdue
    · cases h

/-- The best task is one of the first. -/
theorem getNextTask_first (hno : ¬ Overtaken view now tasks)
    (hen : ∃ t ∈ tasks, enabled (view t) = true) :
    ∃ w i, First view now tasks w ∧ getNextTask view now tasks = some (w, i) := by
  cases tasks with
  | nil =>
    obtain ⟨t, ht, -⟩ := hen
    cases ht
  | cons t ts =>
    obtain ⟨i, hi⟩ := getNextTask_eq view now t ts
    obtain ⟨w, hw⟩ := exists_first hen
    refine ⟨_, i, runningBest_winner ⟨w, hw.mem, hw⟩ ?_, hi⟩
    exact fun w x hw hx hxw => hw.wins hno hx hxw

/-- A disabled best task is not started before the time that never comes. -/
theorem getNext_disabled (hnow : now < MonotonicTimestamp.max)
    (hdis : ∀ t ∈ tasks, enabled (view t) = false) :
    getNext view now tasks = .wait MonotonicTimestamp.max := by
  unfold getNext
  split
  · rfl
  · rename_i t i hbest
    have ht := hdis t (List.mem_of_getElem? (getNextTask_getElem? hbest))
    by_cases hrun : (view t).canRun = true
    · have hmax : (view t).expirationTime = MonotonicTimestamp.max := by
        simpa [enabled, hrun] using ht
      have hlate : ¬ MonotonicTimestamp.max ≤ now := not_le.mpr hnow
      simp [hrun, hmax, hlate]
    · simp [hrun]

/-- An enabled best task is started if it is due, and waited for otherwise. -/
theorem getNext_enabled {t : τ} {i : Nat} (hbest : getNextTask view now tasks = some (t, i))
    (ht : enabled (view t) = true) :
    getNext view now tasks =
      if dueTime now (view t) ≤ now then .start t (tasks.eraseIdx i)
      else .wait (dueTime now (view t)) := by
  have hrun : (view t).canRun = true := (Bool.and_eq_true_iff.mp ht).2
  by_cases hdue : (view t).expirationTime ≤ now
  · simp [getNext, hbest, hrun, hdue, dueTime]
  · simp [getNext, hbest, hrun, hdue, dueTime]

/-- The first tasks do not depend on the order of the list. -/
theorem First.perm (hperm : tasks'.Perm tasks) (h : First view now tasks' w) :
    First view now tasks w := by
  have hbl : ∀ t, Blocked view tasks t → Blocked view tasks' t := fun t ⟨a, ha, hat⟩ =>
    ⟨a, hperm.mem_iff.mpr ha, hat⟩
  have hbl' : ∀ t, Blocked view tasks' t → Blocked view tasks t := fun t ⟨a, ha, hat⟩ =>
    ⟨a, hperm.mem_iff.mp ha, hat⟩
  exact ⟨hperm.mem_iff.mp h.mem, h.isEnabled, fun hw => h.unblocked (hbl w hw), fun u hu hue hub =>
    h.first u (hperm.mem_iff.mpr hu) hue fun hu' => hub (hbl' u hu')⟩

theorem Overtaken.perm (hperm : tasks'.Perm tasks) (h : Overtaken view now tasks') :
    Overtaken view now tasks := by
  obtain ⟨w, z, hw, hz, hze, ⟨a, ha, haz⟩, hzw, hwz⟩ := h
  exact ⟨w, z, hw.perm hperm, hperm.mem_iff.mp hz, hze, ⟨a, hperm.mem_iff.mp ha, haz⟩, hzw, hwz⟩

/-- Two first tasks can start at the same time and have the same priority. -/
theorem First.unique (hw : First view now tasks w) (hx : First view now tasks x) :
    dueTime now (view w) = dueTime now (view x) ∧ (view w).priority = (view x).priority := by
  have h1 := not_before_iff.mp (hw.first x hx.mem hx.isEnabled hx.unblocked)
  have h2 := not_before_iff.mp (hx.first w hw.mem hw.isEnabled hw.unblocked)
  have heq := toLex.injective (le_antisymm h1 h2)
  exact ⟨congrArg Prod.fst heq, congrArg Prod.snd heq⟩

end MasterScheduler

/-- The priority of the task that starts, or the time when to ask again. -/
def NextTask.selection {τ : Type*} (view : τ → TaskView) : NextTask τ → Int ⊕ Int
  | .start task _ => .inl (view task).priority
  | .wait next => .inr next

namespace MasterScheduler

variable {τ : Type*} {view : τ → TaskView} {now : Int} {tasks tasks' : List τ}

open TaskComparison

/-- The selection is that of the first tasks. -/
theorem selection_getNext (hno : ¬ Overtaken view now tasks) {w : τ}
    (hw : First view now tasks w) :
    (getNext view now tasks).selection view =
      if dueTime now (view w) ≤ now then .inl (view w).priority
      else .inr (dueTime now (view w)) := by
  obtain ⟨x, i, hx, hbest⟩ := getNextTask_first hno ⟨w, hw.mem, hw.isEnabled⟩
  obtain ⟨htime, hprio⟩ := hw.unique hx
  rw [getNext_enabled hbest hx.isEnabled, htime, hprio]
  split <;> rfl

theorem selection_perm (hnow : now < MonotonicTimestamp.max) (hno : ¬ Overtaken view now tasks)
    (hperm : tasks'.Perm tasks) :
    (getNext view now tasks').selection view = (getNext view now tasks).selection view := by
  have hno' : ¬ Overtaken view now tasks' := fun h => hno (h.perm hperm)
  by_cases hen : ∃ t ∈ tasks, enabled (view t) = true
  · obtain ⟨t, ht, hte⟩ := hen
    obtain ⟨w, hw⟩ := exists_first ⟨t, hperm.mem_iff.mpr ht, hte⟩
    rw [selection_getNext hno' hw, selection_getNext hno (hw.perm hperm)]
  · have hdis : ∀ t ∈ tasks, enabled (view t) = false := fun t ht => by
      by_contra h
      exact hen ⟨t, ht, by simpa using h⟩
    rw [getNext_disabled hnow hdis, getNext_disabled hnow fun t ht => hdis t (hperm.mem_iff.mp ht)]

/-- A task that starts is one of the first when some task is enabled, and nothing blocks it. -/
theorem not_blocked_of_start (hno : ¬ Overtaken view now tasks) {t : τ} {rest : List τ}
    (h : getNext view now tasks = .start t rest) : ¬ Blocked view tasks t := by
  rintro ⟨a, ha, hat⟩
  obtain ⟨w, i, hw, hbest⟩ := getNextTask_first hno ⟨a, ha, hat.1⟩
  rw [getNext_enabled hbest hw.isEnabled] at h
  split at h
  · cases h
    exact hw.unblocked ⟨a, ha, hat⟩
  · cases h

/-- Where no blocked task overtakes the first of the others, what starts is not blocked and is due,
and its priority, or the time reported when nothing is due, does not depend on the order of the
list. -/
theorem getNext_selection (view : τ → TaskView) (now : Int) (tasks : List τ)
    (hnow : now < MonotonicTimestamp.max) (hno : ¬ Overtaken view now tasks) :
    (∀ task rest, getNext view now tasks = .start task rest →
      ¬ Blocked view tasks task ∧ (view task).expirationTime ≤ now) ∧
    ∀ tasks', tasks'.Perm tasks →
      (getNext view now tasks').selection view = (getNext view now tasks).selection view :=
  ⟨fun _ _ h => ⟨not_blocked_of_start hno h, (getNext_start_due h).1⟩,
    fun _ hperm => selection_perm hnow hno hperm⟩

/-- A poll of the user that can run. -/
def userPoll (expirationTime : Int) : TaskView where
  priority := priority.USER_POLL
  blocksLowerPriority := false
  expirationTime := expirationTime
  canRun := true

/-- The task that clears the restart indication, to be tried at a time. -/
def clearRestart (expirationTime : Int) : TaskView where
  priority := priority.CLEAR_RESTART
  blocksLowerPriority := true
  expirationTime := expirationTime
  canRun := true

/-- A task that exchanges session keys, of higher priority than all others but blocking none. -/
def sessionKey (expirationTime : Int) : TaskView where
  priority := priority.SESSION_KEY
  blocksLowerPriority := false
  expirationTime := expirationTime
  canRun := true

theorem getNext_selection_clearRestart :
    (∀ task rest, getNext id 5 [userPoll 0, clearRestart 0] = .start task rest →
      ¬ Blocked id [userPoll 0, clearRestart 0] task ∧ task.expirationTime ≤ 5) ∧
    ∀ tasks', tasks'.Perm [userPoll 0, clearRestart 0] →
      (getNext id 5 tasks').selection id =
        (getNext id 5 [userPoll 0, clearRestart 0]).selection id := by
  refine getNext_selection id 5 [userPoll 0, clearRestart 0] (by decide) ?_
  rintro ⟨w, z, hw, hz, -, hzb, -, hwz⟩
  have hw' : w = clearRestart 0 := by
    have hmem := hw.mem
    simp only [List.mem_cons, List.not_mem_nil, or_false] at hmem
    exact hmem.resolve_left fun h => hw.unblocked ⟨clearRestart 0, by simp, by subst h; decide⟩
  subst hw'
  simp only [List.mem_cons, List.not_mem_nil, or_false] at hz
  rcases hz with rfl | rfl
  · exact hwz (by decide)
  · obtain ⟨a, ha, hab⟩ := hzb
    simp only [List.mem_cons, List.not_mem_nil, or_false] at ha
    rcases ha with rfl | rfl <;> revert hab <;> decide

/-- Of two polls that are due, the first in the list starts, whatever their expirations. -/
theorem getNext_order :
    getNext id 30 [userPoll 10, userPoll 20] = .start (userPoll 10) [userPoll 20] ∧
      getNext id 30 [userPoll 20, userPoll 10] = .start (userPoll 20) [userPoll 10] ∧
      ((userPoll 10).priority, (userPoll 10).expirationTime) ≠
        ((userPoll 20).priority, (userPoll 20).expirationTime) := by
  decide

-- a poll that is blocked overtakes a session key task that comes later
example : getNext id 60 [clearRestart 100, sessionKey 75, userPoll 50] =
    .start (userPoll 50) [clearRestart 100, sessionKey 75] := by decide

end MasterScheduler
end Master
end Dnp3
