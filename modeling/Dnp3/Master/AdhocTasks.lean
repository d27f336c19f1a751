import Dnp3.Master.TaskDemands

/-!
# Tasks that run once

A request of the user becomes a task that runs once.  It waits with the scheduler, becomes active,
and ends: with a response, without one in time, without having started in time, because its request
cannot be built, or because the layer below goes down.  Its completion is reported at the end.

A task is held by the master until it is reported, so that no task is reported twice.  But the tasks
that wait with the scheduler are dropped when the layer goes down, and their completion is never
reported.

`RequestBooks` are the accounts of an observer of the log: which requests of the user belong to the
session, and which are due because the layer went down.  `Accounts` relates them to the state of the
master.  A move either leaves the tasks of the user alone or reports one of them
(`Move.undisturbed_or_reported`), so that no task is reported twice.  `adhoc_reported_iff` is the
result: in every run each task is reported exactly once when no task of the user waits with the
scheduler at the moment the layer goes down.
-/

namespace Dnp3
namespace Master

/-- A task that runs once. -/
def TaskRef.isAdhoc : TaskRef → Bool
  | .adhoc _ => true
  | _ => false

/-- The user gave a callback with the task. -/
def TaskBody.hasCallback : TaskBody → Bool
  | command _ _ | restartOperation _ _ => true
  | _ => false

theorem TaskBody.isSome_completionCallback (result : TaskCompletion) (body : TaskBody) :
    (body.completionCallback result).isSome = body.hasCallback := by
  cases body <;> rfl

theorem TaskBody.SameClass.hasCallback {b b' : TaskBody} (h : TaskBody.SameClass b b') :
    b'.hasCallback = b.hasCallback :=
  h.map_eq TaskBody.hasCallback (fun _ _ _ => rfl) (fun _ _ _ _ => rfl) (fun _ _ _ _ => rfl)
    (fun _ _ _ _ => rfl) (fun _ _ _ _ => rfl) fun _ _ _ => rfl

namespace MContext

open App Library Relation

variable {s s' : MContext} {a : Surroundings} {ref : TaskRef}

/-! ## Reports -/

/-- The end of the task is reported. -/
def isReport (ref : TaskRef) : Entry → Bool
  | .complete ref' _ => ref' == ref
  | _ => false

/-- The user is told of the end of the task. -/
def isCallback (ref : TaskRef) : Entry → Bool
  | .userCallback ref' _ => ref' == ref
  | _ => false

/-- How often the completion of a task was reported. -/
def reports (s : MContext) (ref : TaskRef) : Nat := s.log.countP (isReport ref)

/-- How often the callback of the user was called. -/
def callbacks (s : MContext) (ref : TaskRef) : Nat := s.log.countP (isCallback ref)

/-- The requests of the user: those of the session, and those that are due because the layer has
gone down since, or was down then. -/
structure RequestBooks where
  online : Bool
  session : List TaskRef
  due : List TaskRef
  deriving DecidableEq, Repr

/-- What an entry of the log says about the requests of the user. -/
def bookRequest (b : RequestBooks) : Entry → RequestBooks
  | .up => { b with online := true }
  | .down => { online := false, session := [], due := b.due ++ b.session }
  | .scheduled ref =>
    if b.online then { b with session := b.session ++ [ref] }
    else { b with due := b.due ++ [ref] }
  | _ => b

/-- What is known of the requests of the user. -/
def requestBooks (s : MContext) : RequestBooks :=
  s.log.foldl bookRequest { online := false, session := [], due := [] }

/-- A task is reported once at most, and has been once the layer has gone down or its response
timeout has elapsed; the callback of the user is called with every report. -/
structure ReportedOnce (s : MContext) (ref : TaskRef) : Prop where
  atMostOnce : s.reports ref ≤ 1
  down : ref ∈ s.requestBooks.due → s.reports ref = 1
  elapsed : ∀ a, fired s.responseTimer a = true → s.pActiveTask = some ref →
    (s.step (.responseTimeout, a)).reports ref = 1
  callbacks : s.callbacks ref = if (s.tasks ref).body.hasCallback then s.reports ref else 0

/-- All tasks that were passed to `ScheduleAdhocTask`. -/
def AllReportedOnce (s : MContext) : Prop := ∀ n < s.adhocTasks, s.ReportedOnce (.adhoc n)

/-- No task that runs once waits with the scheduler when the layer goes down. -/
def DownWithoutAdhoc (s : MContext) (e : Event × Surroundings) : Prop :=
  match e.1 with
  | .lowerLayerDown => s.isOnline = true → ∀ ref ∈ s.scheduler, ref.isAdhoc = false
  | _ => True

instance (s : MContext) : (e : Event × Surroundings) → Decidable (s.DownWithoutAdhoc e)
  | (.lowerLayerDown, _) => decidable_of_iff
      (s.isOnline = false ∨ s.scheduler.all (fun ref => !ref.isAdhoc) = true) (by
        simp [DownWithoutAdhoc, or_iff_not_imp_left])
  | (.lowerLayerUp, _) | (.receive _, _) | (.sendResult, _) | (.responseTimeout, _)
  | (.scheduleTimeout, _) | (.taskStartTimeout, _) | (.runPosted, _) | (.pendingTask, _)
  | (.scheduleAdhocTask _, _) | (.addScan _, _) | (.demandScan _, _) => .isTrue trivial

/-! ## Tasks that are held -/

/-- The tasks that the master holds. -/
def held (s : MContext) : List TaskRef := s.pActiveTask.toList ++ s.scheduler

/-- How often a task is held or has been reported. -/
def accounted (s : MContext) (ref : TaskRef) : Nat := s.held.count ref + s.reports ref

theorem countP_isReport_endEntries (task : IMasterTask) (ref ref' : TaskRef)
    (result : TaskCompletion) :
    (endEntries task ref result).countP (isReport ref') = if ref = ref' then 1 else 0 := by
  unfold endEntries
  cases task.body.completionCallback result <;> simp [isReport, List.countP_cons]

theorem countP_isCallback_endEntries (task : IMasterTask) (ref ref' : TaskRef)
    (result : TaskCompletion) :
    (endEntries task ref result).countP (isCallback ref') =
      if ref = ref' ∧ task.body.hasCallback = true then 1 else 0 := by
  rw [← TaskBody.isSome_completionCallback result]
  unfold endEntries
  cases task.body.completionCallback result <;> simp [isCallback, List.countP_cons]

/-- The tasks that were passed to the master run once. -/
def RunOnce (s : MContext) : Prop :=
  ∀ n < s.adhocTasks, (s.tasks (.adhoc n)).body.isRecurring = false

/-- No task is held or reported before it is made. -/
def MadeFirst (s : MContext) : Prop :=
  ∀ n, s.adhocTasks ≤ n → s.accounted (.adhoc n) = 0

/-- A task that is held has been made. -/
theorem MadeFirst.made (h : s.MadeFirst) {n : Nat} (hheld : .adhoc n ∈ s.held) :
    n < s.adhocTasks := by
  by_contra hn
  have hzero := h n (Nat.le_of_not_lt hn)
  have hpos := List.count_pos_iff.mpr hheld
  unfold accounted at hzero
  omega

/-! ## The accounts of a master -/

/-- Every task is accounted for once at most, and the books of the requests fit. -/
structure Accounts (s : MContext) : Prop where
  runOnce : s.RunOnce
  madeFirst : s.MadeFirst
  atMostOnce : ∀ n, s.accounted (.adhoc n) ≤ 1
  callbacks : ∀ n, s.callbacks (.adhoc n) =
    if (s.tasks (.adhoc n)).body.hasCallback then s.reports (.adhoc n) else 0
  online : s.requestBooks.online = s.isOnline
  session : s.isOnline = false → s.requestBooks.session = []
  booked : ∀ n, n < s.adhocTasks ↔
    .adhoc n ∈ s.requestBooks.session ∨ .adhoc n ∈ s.requestBooks.due
  dueFree : ∀ n, .adhoc n ∈ s.requestBooks.due → .adhoc n ∉ s.held

/-- Every task that was made is accounted for. -/
def NoneDropped (s : MContext) : Prop := ∀ n < s.adhocTasks, s.accounted (.adhoc n) = 1

/-- Entries that neither report a task nor are booked. -/
def IsUnbooked : Entry → Prop
  | .up | .down | .scheduled _ | .userCallback _ _ | .complete _ _ => False
  | _ => True

/-- The tasks that run once are left alone. -/
structure Undisturbed (s s' : MContext) : Prop where
  isOnline : s'.isOnline = s.isOnline
  adhocTasks : s'.adhocTasks = s.adhocTasks
  bodies : ∀ n, (s.tasks (.adhoc n)).body.SameClass (s'.tasks (.adhoc n)).body
  held : ∀ n, s'.held.count (.adhoc n) = s.held.count (.adhoc n)
  log : ∃ entries, s'.log = s.log ++ entries ∧ ∀ entry ∈ entries, IsUnbooked entry

theorem Undisturbed.countP {p : Entry → Bool} (hp : ∀ entry, IsUnbooked entry → p entry = false)
    (h : Undisturbed s s') : s'.log.countP p = s.log.countP p := by
  obtain ⟨entries, hlog, hunbooked⟩ := h.log
  rw [hlog, List.countP_append, Nat.add_eq_left, List.countP_eq_zero]
  intro entry hentry
  simp [hp entry (hunbooked entry hentry)]

theorem Undisturbed.reports (h : Undisturbed s s') (ref : TaskRef) :
    s'.reports ref = s.reports ref :=
  h.countP fun entry hentry => by cases entry <;> first | rfl | exact hentry.elim

theorem Undisturbed.callbacks (h : Undisturbed s s') (ref : TaskRef) :
    s'.callbacks ref = s.callbacks ref :=
  h.countP fun entry hentry => by cases entry <;> first | rfl | exact hentry.elim

theorem foldl_bookRequest_silent {entries : List Entry} {b : RequestBooks}
    (h : ∀ entry ∈ entries, ∀ b, bookRequest b entry = b) : entries.foldl bookRequest b = b := by
  induction entries with
  | nil => rfl
  | cons entry entries ih =>
    rw [List.foldl_cons, h entry (by simp)]
    exact ih fun entry' hentry' => h entry' (by simp [hentry'])

theorem requestBooks_append (entries : List Entry) (hlog : s'.log = s.log ++ entries) :
    s'.requestBooks = entries.foldl bookRequest s.requestBooks := by
  rw [requestBooks, hlog, List.foldl_append]
  rfl

theorem Undisturbed.requestBooks (h : Undisturbed s s') : s'.requestBooks = s.requestBooks := by
  obtain ⟨entries, hlog, hunbooked⟩ := h.log
  rw [requestBooks_append entries hlog]
  refine foldl_bookRequest_silent fun entry hentry b => ?_
  have := hunbooked entry hentry
  cases entry <;> first | rfl | exact this.elim

theorem foldl_bookRequest_endEntries (task : IMasterTask) (ref : TaskRef)
    (result : TaskCompletion) (b : RequestBooks) :
    (endEntries task ref result).foldl bookRequest b = b := by
  refine foldl_bookRequest_silent fun entry hentry b => ?_
  rw [endEntries, List.mem_append, Option.mem_toList, Option.map_eq_some_iff,
    List.mem_singleton] at hentry
  rcases hentry with ⟨call, -, rfl⟩ | rfl <;> rfl

theorem Undisturbed.accounted (h : Undisturbed s s') (n : Nat) :
    s'.accounted (.adhoc n) = s.accounted (.adhoc n) := by
  rw [MContext.accounted, MContext.accounted, h.held, h.reports]

/-- What leaves the tasks that run once alone keeps the accounts. -/
theorem Accounts.undisturbed (h : s.Accounts) (hun : Undisturbed s s') : s'.Accounts where
  runOnce := by
    intro n hn
    rw [hun.adhocTasks] at hn
    rw [(hun.bodies n).isRecurring]
    exact h.runOnce n hn
  madeFirst := by
    intro n hn
    rw [hun.adhocTasks] at hn
    rw [hun.accounted]
    exact h.madeFirst n hn
  atMostOnce n := by
    rw [hun.accounted]
    exact h.atMostOnce n
  callbacks n := by
    rw [hun.callbacks, (hun.bodies n).hasCallback, hun.reports]
    exact h.callbacks n
  online := by
    rw [hun.requestBooks, hun.isOnline]
    exact h.online
  session := by
    rw [hun.requestBooks, hun.isOnline]
    exact h.session
  booked := by
    rw [hun.requestBooks, hun.adhocTasks]
    exact h.booked
  dueFree n hdue := by
    rw [hun.requestBooks] at hdue
    have hfree := h.dueFree n hdue
    rw [← List.count_eq_zero] at hfree ⊢
    rw [hun.held, hfree]

theorem NoneDropped.undisturbed (h : s.NoneDropped) (hun : Undisturbed s s') :
    s'.NoneDropped := by
  intro n hn
  rw [hun.adhocTasks] at hn
  rw [hun.accounted]
  exact h n hn

/-- Another task changes, or nothing but what is on the side. -/
theorem undisturbed_of_held (isOnline : s'.isOnline = s.isOnline)
    (adhocTasks : s'.adhocTasks = s.adhocTasks)
    (bodies : ∀ n, (s'.tasks (.adhoc n)).body = (s.tasks (.adhoc n)).body)
    (held : s'.held = s.held) (entries : List Entry) (hlog : s'.log = s.log ++ entries)
    (hunbooked : ∀ entry ∈ entries, IsUnbooked entry) : Undisturbed s s' where
  isOnline := isOnline
  adhocTasks := adhocTasks
  bodies n := by
    rw [bodies]
    exact .refl _
  held n := by rw [held]
  log := ⟨entries, hlog, hunbooked⟩

theorem Framed.undisturbed (h : Framed s s') : Undisturbed s s' :=
  undisturbed_of_held h.isOnline h.adhocTasks (fun n => by rw [h.tasks])
    (by rw [held, held, h.pActiveTask, h.scheduler]) [] (by simp [h.log]) (by simp)

theorem IsTraffic.isUnbooked {entry : Entry} (h : IsTraffic entry) : IsUnbooked entry := by
  rcases h with ⟨_, _⟩ | ⟨_, _⟩ <;> trivial

/-- A task that is reported leaves the tasks that are held. -/
structure Reported (s : MContext) (a : Surroundings) (ref : TaskRef) (result : TaskCompletion)
    (s' : MContext) : Prop where
  isOnline : s'.isOnline = s.isOnline
  adhocTasks : s'.adhocTasks = s.adhocTasks
  tasks : s'.tasks = Function.update s.tasks ref ((s.tasks ref).complete result a.now)
  held : ∀ n, s.held.count (.adhoc n) =
    s'.held.count (.adhoc n) + if ref = .adhoc n then 1 else 0
  log : s'.log = s.log ++ endEntries (s.tasks ref) ref result

theorem reports_of_ended {result : TaskCompletion}
    (hlog : s'.log = s.log ++ endEntries (s.tasks ref) ref result) (ref' : TaskRef) :
    s'.reports ref' = s.reports ref' + if ref = ref' then 1 else 0 := by
  rw [reports, hlog, List.countP_append, countP_isReport_endEntries]
  rfl

theorem callbacks_of_ended {result : TaskCompletion}
    (hlog : s'.log = s.log ++ endEntries (s.tasks ref) ref result) (ref' : TaskRef) :
    s'.callbacks ref' = s.callbacks ref' +
      if ref = ref' ∧ (s.tasks ref).body.hasCallback = true then 1 else 0 := by
  rw [callbacks, hlog, List.countP_append, countP_isCallback_endEntries]
  rfl

theorem Reported.reports {result : TaskCompletion} (h : Reported s a ref result s')
    (ref' : TaskRef) : s'.reports ref' = s.reports ref' + if ref = ref' then 1 else 0 :=
  reports_of_ended h.log ref'

theorem Reported.accounted {result : TaskCompletion} (h : Reported s a ref result s') (n : Nat) :
    s'.accounted (.adhoc n) = s.accounted (.adhoc n) := by
  rw [MContext.accounted, MContext.accounted, h.held, h.reports]
  omega

theorem Reported.body {result : TaskCompletion} (h : Reported s a ref result s')
    (ref' : TaskRef) : (s'.tasks ref').body = (s.tasks ref').body := by
  rw [h.tasks]
  by_cases heq : ref' = ref
  · subst heq
    simp [IMasterTask.complete]
  · simp [heq]

/-- A task that is reported is struck from the accounts of what is held. -/
theorem Accounts.reported {result : TaskCompletion} (h : s.Accounts)
    (hreported : Reported s a ref result s') : s'.Accounts := by
  have hbooks : s'.requestBooks = s.requestBooks := by
    rw [requestBooks_append _ hreported.log, foldl_bookRequest_endEntries]
  constructor
  · intro n hn
    rw [hreported.adhocTasks] at hn
    rw [hreported.body]
    exact h.runOnce n hn
  · intro n hn
    rw [hreported.adhocTasks] at hn
    rw [hreported.accounted]
    exact h.madeFirst n hn
  · intro n
    rw [hreported.accounted]
    exact h.atMostOnce n
  · intro n
    rw [callbacks_of_ended hreported.log, hreported.body, hreported.reports, h.callbacks]
    by_cases heq : ref = .adhoc n
    · subst heq
      by_cases hcallback : (s.tasks (.adhoc n)).body.hasCallback = true <;> simp [hcallback]
    · simp [heq]
  · rw [hbooks, hreported.isOnline]
    exact h.online
  · rw [hbooks, hreported.isOnline]
    exact h.session
  · rw [hbooks, hreported.adhocTasks]
    exact h.booked
  · intro n hdue
    rw [hbooks] at hdue
    have hfree := h.dueFree n hdue
    rw [← List.count_eq_zero] at hfree ⊢
    have hheld := hreported.held n
    omega

theorem NoneDropped.reported {result : TaskCompletion} (h : s.NoneDropped)
    (hreported : Reported s a ref result s') : s'.NoneDropped := by
  intro n hn
  rw [hreported.adhocTasks] at hn
  rw [hreported.accounted]
  exact h n hn

/-! ## Moves and events -/

theorem sameClass_update {task : IMasterTask} (hbody : (s.tasks ref).body.SameClass task.body)
    (ref' : TaskRef) :
    (s.tasks ref').body.SameClass (Function.update s.tasks ref task ref').body := by
  by_cases heq : ref' = ref
  · subst heq
    simpa using hbody
  · simpa [heq] using TaskBody.SameClass.refl _

/-- A move leaves the tasks that run once alone, or reports one task. -/
theorem Move.undisturbed_or_reported (h : Move a s s') (honce : s.RunOnce)
    (hmade : s.MadeFirst) : Undisturbed s s' ∨ ∃ ref result, Reported s a ref result s' := by
  cases h with
  | frame hframed => exact .inl hframed.undisturbed
  | traffic htraffic =>
    exact .inl (undisturbed_of_held rfl rfl (fun _ => rfl) rfl [_] rfl
      (by simpa using htraffic.isUnbooked))
  | progress hactive hbody =>
    exact .inl ⟨rfl, rfl, fun n => sameClass_update hbody _, fun _ => rfl, [],
      (List.append_nil _).symm, by simp⟩
  | start hidle hperm =>
    rename_i ref rest
    refine .inl ⟨rfl, rfl, fun n => sameClass_update (TaskBody.sameClass_onStart _) _, ?_,
      [.taskStart ref], rfl, by simp [IsUnbooked]⟩
    intro n
    rw [held, held, hidle, List.count_append, List.count_append, hperm.count_eq]
    simp [started, List.count_cons, Nat.add_comm]
  | finish hactive result =>
    rename_i ref
    obtain ⟨timer, hfinish⟩ := finish_eq hactive result
    refine .inr ⟨ref, result, by rw [hfinish], by rw [hfinish], by rw [hfinish], ?_,
      by rw [hfinish]⟩
    intro n
    have hrecurs : ref = .adhoc n → (s.tasks ref).body.isRecurring = false := by
      rintro rfl
      exact honce n (hmade.made (by simp [held, hactive]))
    rw [hfinish, held, held, hactive]
    by_cases heq : ref = .adhoc n
    · subst heq
      simp [hrecurs rfl, Nat.add_comm]
    · simp [heq, List.count_append]
      split <;> simp [heq]
  | timeout hwaits honce' =>
    rename_i ref
    rw [timedOut_eq]
    refine .inr ⟨ref, .failureStartTimeout, rfl, rfl, rfl, ?_, rfl⟩
    intro n
    rw [held, held, List.count_append, List.count_append, List.count_erase]
    by_cases heq : ref = .adhoc n
    · subst heq
      have hpos := List.count_pos_iff.mpr hwaits
      simp only [beq_self_eq_true, if_true]
      omega
    · simp [heq]

theorem Accounts.moves (h : s.Accounts) (hmoves : Moves a s s') : s'.Accounts := by
  refine hmoves.keeps (fun s s' hmove h => ?_) h
  obtain hun | ⟨ref, result, hreported⟩ :=
    hmove.undisturbed_or_reported h.runOnce h.madeFirst
  · exact Accounts.undisturbed h hun
  · exact Accounts.reported h hreported

/-- Moves drop no task. -/
theorem NoneDropped.moves (h : s.NoneDropped) (haccounts : s.Accounts) (hmoves : Moves a s s') :
    s'.NoneDropped := by
  have hboth : s'.Accounts ∧ s'.NoneDropped := by
    refine hmoves.keeps (I := fun s => s.Accounts ∧ s.NoneDropped) (fun s s' hmove h => ?_)
      ⟨haccounts, h⟩
    obtain hun | ⟨ref, result, hreported⟩ :=
      hmove.undisturbed_or_reported h.1.runOnce h.1.madeFirst
    · exact ⟨h.1.undisturbed hun, h.2.undisturbed hun⟩
    · exact ⟨h.1.reported hreported, h.2.reported hreported⟩
  exact hboth.2

theorem undisturbed_checkConfirmTransmit (s : MContext) :
    Undisturbed s s.checkConfirmTransmit := by
  obtain h | ⟨id, confirm, _, _, _, _, h⟩ := checkConfirmTransmit_cases s
  · rw [h]
    exact (Framed.refl s).undisturbed
  · rw [h]
    exact undisturbed_of_held rfl rfl (fun _ => rfl) rfl [.confirm id confirm] rfl
      (by simp [IsUnbooked])

theorem Undisturbed.trans {s'' : MContext} (h : Undisturbed s s') (h' : Undisturbed s' s'') :
    Undisturbed s s'' where
  isOnline := h'.isOnline.trans h.isOnline
  adhocTasks := h'.adhocTasks.trans h.adhocTasks
  bodies n := (h.bodies n).trans (h'.bodies n)
  held n := (h'.held n).trans (h.held n)
  log := by
    obtain ⟨entries, hlog, hunbooked⟩ := h.log
    obtain ⟨entries', hlog', hunbooked'⟩ := h'.log
    refine ⟨entries ++ entries', by rw [hlog', hlog, List.append_assoc], fun entry hentry => ?_⟩
    rcases List.mem_append.mp hentry with hentry | hentry
    · exact hunbooked entry hentry
    · exact hunbooked' entry hentry

theorem undisturbed_queueConfirm (s : MContext) (id : Nat) (header : APDUHeader) :
    Undisturbed s (s.queueConfirm id header) := by
  have hqueued : Undisturbed s { s with confirmQueue := s.confirmQueue ++ [(id, header)] } :=
    undisturbed_of_held rfl rfl (fun _ => rfl) rfl [] (by simp) (by simp)
  exact hqueued.trans (undisturbed_checkConfirmTransmit _)

theorem Confirms.undisturbed {id : Nat} {header : APDUResponseHeader}
    (h : Confirms s id header s') : Undisturbed s s' := by
  cases h with
  | none => exact (Framed.refl s).undisturbed
  | queued _ => exact undisturbed_queueConfirm s id _

theorem undisturbed_noteReceived (s : MContext) (header : APDUResponseHeader)
    (objects : List UInt8) : Undisturbed s (s.noteReceived header objects) :=
  undisturbed_of_held rfl rfl (fun _ => rfl) rfl [.received s.received header objects] rfl
    (by simp [IsUnbooked])

theorem undisturbed_demand (s : MContext) (ref : TaskRef) : Undisturbed s (s.demand ref) := by
  have hbody : (s.tasks ref).body.SameClass (s.tasks ref).demand.body := .refl _
  exact ⟨rfl, rfl, fun n => sameClass_update hbody _, fun _ => rfl, [.demand ref], rfl,
    by simp [IsUnbooked]⟩

theorem undisturbed_processIIN (s : MContext) (iin : IINField) :
    Undisturbed s (s.processIIN iin) := by
  unfold MContext.processIIN
  generalize demanded s.params iin = refs
  induction refs generalizing s with
  | nil => exact (Framed.refl s).undisturbed
  | cons ref refs ih => exact (undisturbed_demand s ref).trans (ih (s.demand ref))

/-- A scan is not a task that runs once. -/
theorem undisturbed_addScan (s : MContext) (period : Int) : Undisturbed s (s.addScan period) := by
  have hbodies (n : Nat) : (Function.update s.tasks (.bound s.boundTasks)
      (.ofBody (.userPoll true period 0)) (.adhoc n)).body = (s.tasks (.adhoc n)).body := by simp
  unfold MContext.addScan
  dsimp only
  split
  · refine ⟨rfl, rfl, fun n => ?_, fun n => ?_, [], (List.append_nil _).symm, by simp⟩
    · exact (hbodies n) ▸ TaskBody.SameClass.refl _
    · simp [held, postCheckForTask, schedule, recalculateTaskStartTimeout]
  · exact undisturbed_of_held rfl rfl hbodies rfl [] (List.append_nil _).symm (by simp)

/-- A request becomes a task, which waits with the scheduler or is reported at once. -/
theorem Accounts.addAdhoc (h : s.Accounts) (a : Surroundings) (request : UserRequest) :
    let s' := s.addAdhoc a request
    s'.RunOnce ∧ (∀ n, s'.accounted (.adhoc n) = s.accounted (.adhoc n)) ∧
      (∀ n, s'.callbacks (.adhoc n) =
        if (s'.tasks (.adhoc n)).body.hasCallback then s'.reports (.adhoc n) else 0) ∧
      s'.requestBooks = bookRequest s.requestBooks (.scheduled (.adhoc s.adhocTasks)) := by
  have hother {n : Nat} (hn : n ≠ s.adhocTasks) :
      ((s.addAdhoc a request).tasks (.adhoc n)) = s.tasks (.adhoc n) := by
    simp [MContext.addAdhoc, hn]
  have hcount (p : Entry → Bool) (hp : p (.scheduled (.adhoc s.adhocTasks)) = false) :
      (s.addAdhoc a request).log.countP p = s.log.countP p := by
    simp [MContext.addAdhoc, hp]
  have hreports (ref : TaskRef) : (s.addAdhoc a request).reports ref = s.reports ref :=
    hcount _ rfl
  have hcallbacks (ref : TaskRef) : (s.addAdhoc a request).callbacks ref = s.callbacks ref :=
    hcount _ rfl
  refine ⟨?_, ?_, ?_, requestBooks_append [.scheduled (.adhoc s.adhocTasks)] rfl⟩
  · intro n hn
    by_cases heq : n = s.adhocTasks
    · subst heq
      cases request <;> simp [MContext.addAdhoc, UserRequest.body, IMasterTask.ofBody,
        IMasterTask.configureStartExpiration, TaskBody.isRecurring]
    · rw [hother heq]
      have hn : n < s.adhocTasks + 1 := hn
      exact h.runOnce n (by omega)
  · intro n
    rw [accounted, accounted, hreports]
    rfl
  · intro n
    rw [hcallbacks, hreports]
    by_cases heq : n = s.adhocTasks
    · subst heq
      -- nothing has been reported for a task that has just been made
      have hzero : s.reports (.adhoc s.adhocTasks) = 0 := by
        have := h.madeFirst s.adhocTasks (Nat.le_refl _)
        unfold accounted at this
        omega
      rw [h.callbacks, hzero]
      simp
    · rw [hother heq]
      exact h.callbacks n

/-- The accounts with one more task, that is held or has been reported. -/
theorem Accounts.made (h : s.Accounts) (s' : MContext)
    (hadhocTasks : s'.adhocTasks = s.adhocTasks + 1)
    (haccounted : ∀ n, s'.accounted (.adhoc n) =
      s.accounted (.adhoc n) + if n = s.adhocTasks then 1 else 0) :
    s'.MadeFirst ∧ (∀ n, s'.accounted (.adhoc n) ≤ 1) ∧ (s.NoneDropped → s'.NoneDropped) := by
  have hlast := h.madeFirst s.adhocTasks (Nat.le_refl _)
  refine ⟨fun n hn => ?_, fun n => ?_, fun hnone n hn => ?_⟩
  · rw [hadhocTasks] at hn
    rw [haccounted, if_neg (by omega), h.madeFirst n (by omega)]
  · rw [haccounted]
    by_cases heq : n = s.adhocTasks
    · subst heq
      simp [hlast]
    · simpa [heq] using h.atMostOnce n
  · rw [hadhocTasks] at hn
    rw [haccounted]
    by_cases heq : n = s.adhocTasks
    · subst heq
      simp [hlast]
    · simpa [heq] using hnone n (by omega)

/-- A request of an online master waits with the scheduler. -/
theorem Accounts.scheduleAdhoc (h : s.Accounts) (honline : s.isOnline = true)
    (a : Surroundings) (request : UserRequest) :
    ((s.addAdhoc a request).schedule (.adhoc s.adhocTasks)).Accounts ∧
      (s.NoneDropped →
        ((s.addAdhoc a request).schedule (.adhoc s.adhocTasks)).NoneDropped) := by
  obtain ⟨hrunOnce, haccounted, hcallbacks, hbooks⟩ := h.addAdhoc a request
  set s' := (s.addAdhoc a request).schedule (.adhoc s.adhocTasks) with hs'
  have hheld : s'.held = s.held ++ [TaskRef.adhoc s.adhocTasks] := by
    simp [hs', held, schedule, recalculateTaskStartTimeout, MContext.addAdhoc]
  have haccounted' (n : Nat) : s'.accounted (.adhoc n) =
      s.accounted (.adhoc n) + if n = s.adhocTasks then 1 else 0 := by
    have hreports : s'.reports (.adhoc n) = s.reports (.adhoc n) := by
      simp [hs', reports, schedule, recalculateTaskStartTimeout, MContext.addAdhoc, isReport]
    have hcount : List.count (TaskRef.adhoc n) [.adhoc s.adhocTasks] =
        if n = s.adhocTasks then 1 else 0 := by
      rw [List.count_singleton]
      simp [@eq_comm _ s.adhocTasks n]
    rw [accounted, accounted, hheld, hreports, List.count_append, hcount]
    omega
  have hbooks' : s'.requestBooks = { s.requestBooks with
      session := s.requestBooks.session ++ [TaskRef.adhoc s.adhocTasks] } := by
    have hsame : s'.requestBooks = (s.addAdhoc a request).requestBooks := rfl
    rw [hsame, hbooks, bookRequest, if_pos (h.online.trans honline)]
  obtain ⟨hmade, hatMost, hnone⟩ := h.made s' rfl haccounted'
  refine ⟨⟨hrunOnce, hmade, hatMost, hcallbacks, ?_, ?_, ?_, ?_⟩, hnone⟩
  · rw [hbooks']
    exact h.online
  · intro hoffline
    have hoffline : s.isOnline = false := hoffline
    rw [honline] at hoffline
    cases hoffline
  · intro n
    have hadhocTasks : s'.adhocTasks = s.adhocTasks + 1 := rfl
    have hbooked := h.booked n
    rw [hbooks', hadhocTasks, List.mem_append, List.mem_singleton, TaskRef.adhoc.injEq,
      or_right_comm, ← hbooked]
    omega
  · intro n hdue
    rw [hbooks'] at hdue
    rw [hheld, List.mem_append, not_or, List.mem_singleton, TaskRef.adhoc.injEq]
    have hmade := (h.booked n).mpr (.inr hdue)
    exact ⟨h.dueFree n hdue, by omega⟩

/-- An offline master holds no task. -/
theorem Settled.held_nil (h : s.Settled) (hoffline : s.isOnline = false) : s.held = [] := by
  obtain ⟨hidle, -, hscheduler⟩ := h.offline hoffline
  rw [held, h.idle_iff.mp hidle, hscheduler]
  rfl

/-- A request of an offline master is reported at once. -/
theorem Accounts.refuse (h : s.Accounts) (hsettled : s.Settled) (hoffline : s.isOnline = false)
    (a : Surroundings) (request : UserRequest) :
    ((s.addAdhoc a request).endTask a (.adhoc s.adhocTasks) .failureNoComms).Accounts ∧
      (s.NoneDropped →
        ((s.addAdhoc a request).endTask a (.adhoc s.adhocTasks) .failureNoComms).NoneDropped) := by
  obtain ⟨hrunOnce, haccounted, hcallbacks, hbooks⟩ := h.addAdhoc a request
  have hheld₁ : (s.addAdhoc a request).held = [] := hsettled.held_nil hoffline
  generalize hs₁ : s.addAdhoc a request = s₁ at hrunOnce haccounted hcallbacks hbooks hheld₁ ⊢
  have hadhocTasks : s₁.adhocTasks = s.adhocTasks + 1 := by rw [← hs₁]; rfl
  set ref := TaskRef.adhoc s.adhocTasks with href
  set s' := s₁.endTask a ref .failureNoComms with hs'
  have hlog : s'.log = s₁.log ++ endEntries (s₁.tasks ref) ref .failureNoComms := by
    rw [hs', endTask_eq]
  have hheld : s'.held = [] := by
    rw [hs', endTask_eq]
    exact hheld₁
  have hbodies (ref' : TaskRef) : (s'.tasks ref').body = (s₁.tasks ref').body := by
    rw [hs', endTask_eq]
    by_cases heq : ref' = ref
    · subst heq
      simp [IMasterTask.complete]
    · simp [heq]
  have hreports (n : Nat) : s'.reports (.adhoc n) =
      s₁.reports (.adhoc n) + if ref = .adhoc n then 1 else 0 := reports_of_ended hlog _
  have haccounted' (n : Nat) : s'.accounted (.adhoc n) =
      s.accounted (.adhoc n) + if n = s.adhocTasks then 1 else 0 := by
    rw [← haccounted n, accounted, accounted, hheld, hheld₁, hreports, href]
    simp [@eq_comm _ s.adhocTasks n]
  have hbooks' : s'.requestBooks = { s.requestBooks with
      due := s.requestBooks.due ++ [ref] } := by
    have honline : ¬ s.requestBooks.online = true := by simp [h.online, hoffline]
    rw [requestBooks_append _ hlog, foldl_bookRequest_endEntries, hbooks, bookRequest,
      if_neg honline]
  have hsame : s'.isOnline = s.isOnline ∧ s'.adhocTasks = s.adhocTasks + 1 := by
    rw [hs', endTask_eq, ← hadhocTasks, ← hs₁]
    exact ⟨rfl, rfl⟩
  obtain ⟨hmade, hatMost, hnone⟩ := h.made s' hsame.2 haccounted'
  refine ⟨⟨?_, hmade, hatMost, ?_, ?_, ?_, ?_, ?_⟩, hnone⟩
  · intro n hn
    rw [hsame.2, ← hadhocTasks] at hn
    rw [hbodies]
    exact hrunOnce n hn
  · intro n
    rw [callbacks_of_ended hlog, hbodies, hreports, hcallbacks]
    by_cases heq : ref = .adhoc n
    · rw [heq]
      by_cases hcallback : (s₁.tasks (.adhoc n)).body.hasCallback = true <;> simp [hcallback]
    · simp [heq]
  · rw [hbooks', hsame.1]
    exact h.online
  · intro _
    rw [hbooks']
    exact h.session hoffline
  · intro n
    have hbooked := h.booked n
    rw [hbooks', hsame.2, List.mem_append, List.mem_singleton, href, TaskRef.adhoc.injEq,
      ← or_assoc, ← hbooked]
    omega
  · intro n _
    simp [hheld]

/-- The tasks of a session recur, so that those that run once are not among them. -/
theorem count_adhoc_sessionTasks (s : MContext) (n : Nat) :
    s.sessionTasks.count (.adhoc n) = 0 :=
  List.count_eq_zero.mpr (adhoc_notMem_sessionTasks s n)

/-- The layer coming up keeps the accounts, as an offline master holds no request of the user. -/
theorem Accounts.wentUp (h : s.Accounts) (hsettled : s.Settled) (hoffline : s.isOnline = false) :
    s.wentUp.Accounts ∧ (s.NoneDropped → s.wentUp.NoneDropped) := by
  obtain ⟨timer, hup⟩ := wentUp_eq s
  have hactive : s.pActiveTask = none :=
    hsettled.idle_iff.mp (hsettled.offline hoffline).1
  have hlog : s.wentUp.log = s.log ++ [Entry.up] := by rw [hup]
  have hheld (n : Nat) : s.wentUp.held.count (.adhoc n) = s.held.count (.adhoc n) := by
    simp [hup, held, count_adhoc_sessionTasks]
  have hreports (ref : TaskRef) : s.wentUp.reports ref = s.reports ref := by
    rw [reports, hlog]
    simp [reports, isReport]
  have haccounted (n : Nat) : s.wentUp.accounted (.adhoc n) = s.accounted (.adhoc n) := by
    rw [accounted, accounted, hheld, hreports]
  have hcallbacks (ref : TaskRef) : s.wentUp.callbacks ref = s.callbacks ref := by
    rw [MContext.callbacks, hlog]
    simp [MContext.callbacks, isCallback]
  have hbooks : s.wentUp.requestBooks = { s.requestBooks with online := true } :=
    requestBooks_append _ hlog
  have hadhocTasks : s.wentUp.adhocTasks = s.adhocTasks := by rw [hup]
  have htasks : s.wentUp.tasks = s.tasks := by rw [hup]
  have honline : s.wentUp.isOnline = true := by rw [hup]
  refine ⟨⟨?_, ?_, ?_, ?_, ?_, ?_, ?_, ?_⟩, ?_⟩
  · intro n hn
    rw [hadhocTasks] at hn
    rw [htasks]
    exact h.runOnce n hn
  · intro n hn
    rw [hadhocTasks] at hn
    rw [haccounted]
    exact h.madeFirst n hn
  · intro n
    rw [haccounted]
    exact h.atMostOnce n
  · intro n
    rw [hcallbacks, htasks, hreports]
    exact h.callbacks n
  · rw [hbooks, honline]
  · simp [honline]
  · rw [hbooks, hadhocTasks]
    exact h.booked
  · intro n hdue
    rw [hbooks] at hdue
    rw [← List.count_eq_zero, hheld, List.count_eq_zero]
    exact h.dueFree n hdue
  · intro hnone n hn
    rw [hadhocTasks] at hn
    rw [haccounted]
    exact hnone n hn

theorem cutOff_none (h : s.pActiveTask = none) : s.cutOff a = s := by
  rw [cutOff, h]

theorem cutOff_some (h : s.pActiveTask = some ref) :
    s.cutOff a = s.endTask a ref .failureNoComms := by
  rw [cutOff, h]

/-- What the layer going down says of the active task. -/
theorem log_cutOff (h : s.pActiveTask = some ref) :
    (s.cutOff a).log = s.log ++ endEntries (s.tasks ref) ref .failureNoComms := by
  rw [cutOff_some h, endTask_eq]

/-- How often a task is reported when the layer goes down: only the active task is. -/
theorem reports_cutOff (s : MContext) (a : Surroundings) (ref : TaskRef) :
    (s.cutOff a).reports ref = s.reports ref + if s.pActiveTask = some ref then 1 else 0 := by
  cases hactive : s.pActiveTask with
  | none => simp [cutOff_none hactive]
  | some ref' => simpa using reports_of_ended (log_cutOff hactive) ref

/-- The callback of the active task is called when the layer goes down, if it has one. -/
theorem callbacks_cutOff (s : MContext) (a : Surroundings) (ref : TaskRef) :
    (s.cutOff a).callbacks ref = s.callbacks ref +
      if s.pActiveTask = some ref ∧ (s.tasks ref).body.hasCallback = true then 1 else 0 := by
  cases hactive : s.pActiveTask with
  | none => simp [cutOff_none hactive]
  | some ref' =>
    rw [callbacks_of_ended (log_cutOff hactive)]
    by_cases heq : ref' = ref
    · subst heq
      simp
    · simp [heq]

theorem body_cutOff (s : MContext) (a : Surroundings) (ref : TaskRef) :
    ((s.cutOff a).tasks ref).body = (s.tasks ref).body := by
  cases hactive : s.pActiveTask with
  | none => rw [cutOff_none hactive]
  | some ref' =>
    rw [cutOff_some hactive, endTask_eq]
    by_cases heq : ref = ref'
    · subst heq
      simp [IMasterTask.complete]
    · simp [heq]

/-- When the layer goes down, the requests that were with the session are due. -/
theorem requestBooks_wentDown (s : MContext) (a : Surroundings) :
    (s.wentDown a).requestBooks =
      { online := false, session := [], due := s.requestBooks.due ++ s.requestBooks.session } := by
  have hcut : (s.cutOff a).requestBooks = s.requestBooks := by
    cases hactive : s.pActiveTask with
    | none => rw [cutOff_none hactive]
    | some ref => rw [requestBooks_append _ (log_cutOff hactive), foldl_bookRequest_endEntries]
  rw [← hcut]
  exact requestBooks_append [.down] rfl

theorem adhocTasks_wentDown (s : MContext) (a : Surroundings) :
    (s.wentDown a).adhocTasks = s.adhocTasks := by
  unfold wentDown cutOff
  cases s.pActiveTask <;> simp [endTask_eq]

/-- The tasks that are held when the layer goes down are not held any more; the one that is active
is reported. -/
theorem accounted_wentDown (s : MContext) (a : Surroundings) (n : Nat) :
    (s.wentDown a).accounted (.adhoc n) + s.scheduler.count (.adhoc n) =
      s.accounted (.adhoc n) := by
  have hlog : (s.wentDown a).log = (s.cutOff a).log ++ [Entry.down] := rfl
  have hreports : (s.wentDown a).reports (.adhoc n) = (s.cutOff a).reports (.adhoc n) := by
    rw [reports, hlog]
    simp [reports, isReport]
  have hheld : (s.wentDown a).held = [] := by simp [wentDown, held]
  have hcount : s.held.count (.adhoc n) = (if s.pActiveTask = some (.adhoc n) then 1 else 0) +
      s.scheduler.count (.adhoc n) := by
    rw [held, List.count_append]
    cases s.pActiveTask with
    | none => simp
    | some ref => simp [List.count_singleton]
  rw [accounted, accounted, hheld, hreports, reports_cutOff, hcount, List.count_nil]
  omega

/-- The layer going down keeps the accounts; a task that it drops stays due. -/
theorem Accounts.wentDown (h : s.Accounts) (a : Surroundings) : (s.wentDown a).Accounts := by
  have hbooks := requestBooks_wentDown s a
  have hbodies (ref : TaskRef) : ((s.wentDown a).tasks ref).body = (s.tasks ref).body :=
    body_cutOff s a ref
  have hlog : (s.wentDown a).log = (s.cutOff a).log ++ [Entry.down] := rfl
  have hcallbacks (ref : TaskRef) : (s.wentDown a).callbacks ref = (s.cutOff a).callbacks ref := by
    rw [MContext.callbacks, hlog]
    simp [MContext.callbacks, isCallback]
  have hreports (ref : TaskRef) : (s.wentDown a).reports ref = (s.cutOff a).reports ref := by
    rw [reports, hlog]
    simp [reports, isReport]
  refine ⟨?_, ?_, ?_, ?_, ?_, ?_, ?_, ?_⟩
  · intro n hn
    rw [adhocTasks_wentDown] at hn
    rw [hbodies]
    exact h.runOnce n hn
  · intro n hn
    rw [adhocTasks_wentDown] at hn
    have hbefore := h.madeFirst n hn
    have hafter := accounted_wentDown s a n
    omega
  · intro n
    have hbefore := h.atMostOnce n
    have hafter := accounted_wentDown s a n
    omega
  · intro n
    rw [hcallbacks, hbodies, hreports, callbacks_cutOff, reports_cutOff, h.callbacks]
    by_cases hcallback : (s.tasks (.adhoc n)).body.hasCallback = true <;> simp [hcallback]
  · rw [hbooks]
    rfl
  · intro _
    rw [hbooks]
  · intro n
    rw [adhocTasks_wentDown, hbooks, h.booked]
    simp [or_comm]
  · intro n _
    simp [MContext.wentDown, held]

theorem accounts_initial (params : MasterParams) :
    (initial params).Accounts ∧ (initial params).NoneDropped := by
  refine ⟨⟨?_, ?_, ?_, ?_, ?_, ?_, ?_, ?_⟩, ?_⟩ <;>
    simp [initial, RunOnce, MadeFirst, NoneDropped, accounted, held, reports, callbacks,
      requestBooks, initialTasks, IMasterTask.ofBody, TaskBody.hasCallback]

/-- Everything but the layer going down keeps the accounts, and drops no task. -/
theorem Accounts.step (h : s.Accounts) (hsettled : s.Settled) (e : Event × Surroundings) :
    (s.step e).Accounts ∧ (s.DownWithoutAdhoc e → s.NoneDropped → (s.step e).NoneDropped) := by
  have hcase := hsettled.step_cases e
  generalize s.step e = s' at hcase
  have hleft {s₁ : MContext} (hun : Undisturbed s s₁) :
      s₁.Accounts ∧ (s.NoneDropped → s₁.NoneDropped) :=
    ⟨h.undisturbed hun, fun hnone => hnone.undisturbed hun⟩
  have hthen {s₁ s₂ : MContext} {a : Surroundings}
      (h₁ : s₁.Accounts ∧ (s.NoneDropped → s₁.NoneDropped)) (hmoves : Moves a s₁ s₂) :
      s₂.Accounts ∧ (s.NoneDropped → s₂.NoneDropped) :=
    ⟨h₁.1.moves hmoves, fun hnone => (h₁.2 hnone).moves h₁.1 hmoves⟩
  have hunless {s₁ : MContext} (h₁ : s₁.Accounts ∧ (s.NoneDropped → s₁.NoneDropped)) :
      s₁.Accounts ∧ (s.DownWithoutAdhoc e → s.NoneDropped → s₁.NoneDropped) :=
    ⟨h₁.1, fun _ => h₁.2⟩
  cases hcase with
  | moves hmoves => exact hunless (hthen ⟨h, id⟩ hmoves)
  | up hoffline => exact hunless (h.wentUp hsettled hoffline)
  | down honline =>
    rename_i a
    refine ⟨h.wentDown a, fun hdown hnone n hn => ?_⟩
    rw [adhocTasks_wentDown] at hn
    have hbefore := hnone n hn
    have hafter := accounted_wentDown s a n
    have hscheduler : s.scheduler.count (.adhoc n) = 0 := by
      rw [List.count_eq_zero]
      intro hwaits
      cases hdown honline _ hwaits
    omega
  | sent honline hmoves =>
    have hsent : Undisturbed s { s with isSending := false } :=
      Framed.undisturbed (by constructor <;> rfl)
    exact hunless (hthen (hleft (hsent.trans (undisturbed_checkConfirmTransmit _))) hmoves)
  | ignored honline hparse => exact hunless (hleft (undisturbed_noteReceived s _ _))
  | responded honline hparse hresponded =>
    obtain ⟨hbefore, hconfirms, hafter⟩ := handled_respondedTo hresponded
    rename_i s₁ s₂
    have hnoted := hthen (hleft (undisturbed_noteReceived s _ _)) hbefore
    have hconfirmed : s₂.Accounts ∧ (s.NoneDropped → s₂.NoneDropped) :=
      ⟨hnoted.1.undisturbed hconfirms.undisturbed,
        fun hnone => (hnoted.2 hnone).undisturbed hconfirms.undisturbed⟩
    have hended := hthen hconfirmed hafter
    exact hunless ⟨hended.1.undisturbed (undisturbed_processIIN _ _),
      fun hnone => (hended.2 hnone).undisturbed (undisturbed_processIIN _ _)⟩
  | demand hposted =>
    rename_i a scan rest
    have hrest : Undisturbed s { s with posted := rest } :=
      undisturbed_of_held rfl rfl (fun _ => rfl) rfl [] (List.append_nil _).symm (by simp)
    exact hunless (hleft (hrest.trans (undisturbed_demand _ _)))
  | adhoc honline hmoves => exact hunless (hthen (h.scheduleAdhoc honline _ _) hmoves)
  | refused hoffline => exact hunless (h.refuse hsettled hoffline _ _)
  | addScan => exact hunless (hleft (undisturbed_addScan s _))
  | demandScan hscan =>
    exact hunless (hleft (undisturbed_of_held rfl rfl (fun _ => rfl) rfl []
      (List.append_nil _).symm (by simp)))

/-! ## Reports of runs -/

theorem log_completeActiveTask (s : MContext) : s.completeActiveTask.log = s.log := by
  cases hactive : s.pActiveTask with
  | none => rw [completeActiveTask_none hactive]
  | some ref =>
    obtain ⟨timer, h⟩ := completeActiveTask_some hactive
    rw [h]

theorem log_onResponseTimeoutWaitForResponse (a : Surroundings)
    (hactive : s.pActiveTask = some ref) :
    (s.onResponseTimeoutWaitForResponse a).log =
      s.log ++ endEntries (s.tasks ref) ref .failureResponseTimeout := by
  simp only [onResponseTimeoutWaitForResponse, hactive, log_completeActiveTask]
  rw [endTask_eq]

/-- A response timeout reports the active task. -/
theorem Settled.reports_responseTimeout (h : s.Settled) (hfired : fired s.responseTimer a = true)
    (hactive : s.pActiveTask = some ref) :
    (s.step (.responseTimeout, a)).reports ref = s.reports ref + 1 := by
  have hwaiting := h.toPhased.fired hfired
  have honline : s.isOnline = true := by
    by_contra hoffline
    simp [(h.offline (by simpa using hoffline)).1] at hwaiting
  set s₁ : MContext := { s with responseTimer := none } with hs₁
  have hstep : s.step (.responseTimeout, a) = s₁.onResponseTimeoutWaitForResponse a := by
    have hwaiting₁ : s₁.tstate = .waitForResponse := hwaiting
    have honline₁ : s₁.isOnline = true := honline
    have hhandled : s₁.onResponseTimeout a = s₁.onResponseTimeoutWaitForResponse a := by
      rw [MContext.onResponseTimeout, if_pos honline₁, hwaiting₁]
    rw [← hhandled]
    exact if_pos hfired
  have hactive₁ : s₁.pActiveTask = some ref := hactive
  have hlog : (s.step (.responseTimeout, a)).log =
      s.log ++ endEntries (s.tasks ref) ref .failureResponseTimeout := by
    rw [hstep, log_onResponseTimeoutWaitForResponse a hactive₁]
  simpa using reports_of_ended hlog ref

/-- Tasks that are all accounted for are reported once. -/
theorem Accounts.allReportedOnce (h : s.Accounts) (hsettled : s.Settled) (hnone : s.NoneDropped) :
    s.AllReportedOnce := by
  intro n hn
  have haccounted := hnone n hn
  unfold accounted at haccounted
  refine ⟨by omega, fun hdue => ?_, fun a hfired hactive => ?_, h.callbacks n⟩
  · have hheld := List.count_eq_zero.mpr (h.dueFree n hdue)
    omega
  · have hheld : 0 < s.held.count (.adhoc n) :=
      List.count_pos_iff.mpr (by simp [held, hactive])
    rw [hsettled.reports_responseTimeout hfired hactive]
    omega

/-- A task that waits with the scheduler when the layer goes down is due, and has not been
reported. -/
theorem Accounts.downWithoutAdhoc (h : s.Accounts) {e : Event × Surroundings}
    (hreported : (s.step e).AllReportedOnce) : s.DownWithoutAdhoc e := by
  obtain ⟨e, a⟩ := e
  cases e with
  | lowerLayerDown =>
    intro honline ref hwaits
    by_contra hadhoc
    cases ref with
    | adhoc n =>
      have hstep : s.step (.lowerLayerDown, a) = s.wentDown a := onLowerLayerDown_eq honline
      rw [hstep] at hreported
      have hmade : n < s.adhocTasks :=
        h.madeFirst.made (List.mem_append_right _ hwaits)
      have hdue : .adhoc n ∈ (s.wentDown a).requestBooks.due := by
        rw [requestBooks_wentDown, List.mem_append, or_comm]
        exact (h.booked n).mp hmade
      have hreports := (hreported n (by rw [adhocTasks_wentDown]; exact hmade)).down hdue
      have hbefore := h.atMostOnce n
      have hafter := accounted_wentDown s a n
      have hpos := List.count_pos_iff.mpr hwaits
      have haccounted : (s.wentDown a).reports (.adhoc n) ≤
          (s.wentDown a).accounted (.adhoc n) := Nat.le_add_left _ _
      omega
    | _ => exact hadhoc rfl
  | _ => trivial

/-- Every task that was passed to the master is reported once, exactly if no such task waits with
the scheduler when the layer goes down. -/
theorem adhoc_reported_iff (params : MasterParams) (events : List (Event × Surroundings)) :
    Always step AllReportedOnce (initial params) events ↔
      Throughout step DownWithoutAdhoc (initial params) events := by
  have hkeeps (s : MContext) (e : Event × Surroundings) (h : s.Settled ∧ s.Accounts) :
      (s.step e).Settled ∧ (s.step e).Accounts := ⟨h.1.step e, (h.2.step h.1 e).1⟩
  have hinitial : (initial params).Settled ∧ (initial params).Accounts :=
    ⟨settled_initial params, (accounts_initial params).1⟩
  constructor
  · intro hreported
    have hboth := (always_keeps hkeeps events hinitial).and hreported
    exact hboth.throughout fun s e h h' => h.1.2.downWithoutAdhoc h'.2
  · intro hdown
    have hinvariant : Always step (fun s => (s.Settled ∧ s.Accounts) ∧ s.NoneDropped)
        (initial params) events :=
      always_invariant
        (fun s e h he => ⟨hkeeps s e h.1, (h.1.2.step h.1.1 e).2 he h.2⟩)
        ⟨hinitial, (accounts_initial params).2⟩ hdown
    exact hinvariant.imp fun s h => h.1.2.allReportedOnce h.1.1 h.2

/-- The user asks for a restart while the first request is transmitted, and the layer goes down: the
restart is never reported. -/
theorem adhoc_unreported :
    ¬ Always step AllReportedOnce (initial exampleParams)
      ([.lowerLayerUp, .runPosted, .scheduleAdhocTask (.restart .coldRestart),
        .lowerLayerDown].map fun e => (e, exampleSurroundings)) := by
  intro h
  have hreported := h.last 0 (by decide +kernel)
  exact absurd (hreported.down (by decide +kernel)) (by decide +kernel)

end MContext
end Master
end Dnp3
