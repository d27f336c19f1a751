import Dnp3.Master.ConfirmSessions

/-!
# Demands of tasks

The indications of a response demand tasks: they are to run at once, whenever they ran before.  A
demand sets the time of the task to zero, and the task takes it back when it ends.  A task that is
demanded while it is active ends after the demand, and takes back a demand that it has not met.  As
long as no task is demanded while it is active, every demand is kept until the task starts.

An observer of the log keeps books of the demands that are pending: a demand is entered when the
indications ask for it, and struck out when the task starts.  `ImmediatelyRunnable` is what the
books claim of a task, and `DemandsHeld` the invariant that carries the claim through the moves of a
master.  `demands_kept` is the result for runs that demand no active task; `demands_lost` is a run
that does.
-/

namespace Dnp3
namespace Master
namespace MContext

open App Library Relation

variable {s s' : MContext} {a : Surroundings} {ref : TaskRef}

/-! ## Pending demands -/

/-- A demand is pending until the task starts. -/
def bookDemand (pending : List TaskRef) : Entry → List TaskRef
  | .demand ref => ref :: pending
  | .taskStart ref => pending.filter (· ≠ ref)
  | _ => pending

/-- The tasks that were demanded and have not started since. -/
def pendingDemands (s : MContext) : List TaskRef := s.log.foldl bookDemand []

/-- The task runs as soon as it is its turn, or when the current run of it has ended. -/
structure ImmediatelyRunnable (s : MContext) (ref : TaskRef) : Prop where
  waits : ref ∈ s.scheduler ∨ s.pActiveTask = some ref
  due : ∀ a, (s.tasks ref).body.isEnabled a = true → (s.tasks ref).expirationTime a = 0

/-- The demanded tasks of an online master are immediately runnable. -/
def DemandsKept (s : MContext) : Prop :=
  s.isOnline = true → ∀ ref ∈ s.pendingDemands, s.ImmediatelyRunnable ref

/-- The tasks that an event demands, and the task that is active then. -/
def demandsOf (s : MContext) (e : Event × Surroundings) : List TaskRef × Option TaskRef :=
  match e.1 with
  | .receive apdu =>
    match APDUHeaderParser.parseResponse apdu with
    | none => ([], none)
    | some header =>
      match (s.noteReceived header (apdu.drop 4)).respondedTo e.2 s.received header
          (apdu.drop 4) with
      | none => ([], none)
      | some s' => (demanded s.params header.IIN, s'.pActiveTask)
  | .runPosted =>
    match s.posted with
    | .demand scan :: _ => ([.bound scan], s.pActiveTask)
    | _ => ([], none)
  | _ => ([], none)

/-- No task is active when it is demanded, by a response or by the user. -/
def DemandsIdle (s : MContext) (e : Event × Surroundings) : Prop :=
  ∀ ref ∈ (s.demandsOf e).1, (s.demandsOf e).2 ≠ some ref

instance (s : MContext) (e : Event × Surroundings) : Decidable (s.DemandsIdle e) :=
  inferInstanceAs (Decidable (∀ ref ∈ (s.demandsOf e).1, _))

/-! ## What becomes of the tasks of a session -/

/-- The tasks of a session recur, and wait with the scheduler unless they are active; those that are
demanded are due. -/
structure DemandsHeld (s : MContext) : Prop where
  recurs : ∀ ref ∈ s.sessionTasks, (s.tasks ref).body.isRecurring = true
  held : s.isOnline = true → ∀ ref ∈ s.sessionTasks,
    ref ∈ s.scheduler ∨ s.pActiveTask = some ref
  posted : ∀ scan ∈ s.postedDemands, scan < s.boundTasks
  session : ∀ ref ∈ s.pendingDemands, ref ∈ s.sessionTasks
  idle : ∀ ref ∈ s.pendingDemands, s.pActiveTask ≠ some ref
  due : ∀ ref ∈ s.pendingDemands, (s.tasks ref).state = .immediately

theorem DemandsHeld.kept (h : s.DemandsHeld) : s.DemandsKept := by
  intro honline ref hpending
  refine ⟨h.held honline ref (h.session ref hpending), fun a henabled => ?_⟩
  rw [IMasterTask.expirationTime, h.due ref hpending]
  simp [ScheduleState.immediately, henabled]

theorem pendingDemands_append (entries : List Entry) (hlog : s'.log = s.log ++ entries) :
    s'.pendingDemands = entries.foldl bookDemand s.pendingDemands := by
  rw [pendingDemands, hlog, List.foldl_append]
  rfl

/-- Entries that are neither a demand nor a start. -/
theorem foldl_bookDemand_silent {entries : List Entry} {pending : List TaskRef}
    (h : ∀ entry ∈ entries, ∀ pending, bookDemand pending entry = pending) :
    entries.foldl bookDemand pending = pending := by
  induction entries with
  | nil => rfl
  | cons entry entries ih =>
    rw [List.foldl_cons, h entry (by simp)]
    exact ih fun entry' hentry' => h entry' (by simp [hentry'])

theorem Aside.pendingDemands (h : Aside s s') : s'.pendingDemands = s.pendingDemands := by
  obtain ⟨entries, hlog, haside⟩ := h.log
  rw [pendingDemands_append entries hlog]
  refine foldl_bookDemand_silent fun entry hentry pending => ?_
  have := haside entry hentry
  cases entry <;> first | rfl | exact this.elim

theorem foldl_bookDemand_endEntries (task : IMasterTask) (ref : TaskRef) (result : TaskCompletion)
    (pending : List TaskRef) : (endEntries task ref result).foldl bookDemand pending = pending := by
  refine foldl_bookDemand_silent fun entry hentry pending => ?_
  rw [endEntries, List.mem_append, Option.mem_toList, Option.map_eq_some_iff,
    List.mem_singleton] at hentry
  rcases hentry with ⟨call, -, rfl⟩ | rfl <;> rfl

theorem sessionTasks_congr (h : s'.boundTasks = s.boundTasks) :
    s'.sessionTasks = s.sessionTasks := by
  rw [sessionTasks, sessionTasks, h]

theorem adhoc_notMem_sessionTasks (s : MContext) (n : Nat) : .adhoc n ∉ s.sessionTasks := by
  simp [sessionTasks]

/-- What leaves the tasks alone keeps the demands. -/
theorem DemandsHeld.aside (h : s.DemandsHeld) (haside : Aside s s') : s'.DemandsHeld := by
  have hsession := sessionTasks_congr haside.boundTasks
  constructor
  · rw [hsession, haside.tasks]
    exact h.recurs
  · rw [hsession, haside.isOnline, haside.scheduler, haside.pActiveTask]
    exact h.held
  · rw [haside.postedDemands, haside.boundTasks]
    exact h.posted
  · rw [haside.pendingDemands, hsession]
    exact h.session
  · rw [haside.pendingDemands, haside.pActiveTask]
    exact h.idle
  · rw [haside.pendingDemands, haside.tasks]
    exact h.due

/-- A task changes that is active, or not one of the session. -/
theorem DemandsHeld.update (h : s.DemandsHeld) (task : IMasterTask)
    (href : s.pActiveTask = some ref ∨ ref ∉ s.sessionTasks)
    (hrecurs : task.body.isRecurring = (s.tasks ref).body.isRecurring) :
    DemandsHeld { s with tasks := Function.update s.tasks ref task } where
  recurs := by
    intro ref' hmem
    by_cases heq : ref' = ref
    · subst heq
      simpa [hrecurs] using h.recurs ref' hmem
    · simpa [heq] using h.recurs ref' hmem
  held := h.held
  posted := h.posted
  session := h.session
  idle := h.idle
  due := by
    intro ref' hpending
    have hne : ref' ≠ ref := by
      rintro rfl
      rcases href with hactive | hother
      · exact h.idle ref' hpending hactive
      · exact hother (h.session ref' hpending)
    simpa [hne] using h.due ref' hpending

/-- The log gets entries that are neither a demand nor a start. -/
theorem DemandsHeld.log (h : s.DemandsHeld) {entries : List Entry}
    (hsilent : ∀ pending, entries.foldl bookDemand pending = pending) :
    DemandsHeld { s with log := s.log ++ entries } := by
  have hpending : pendingDemands { s with log := s.log ++ entries } = s.pendingDemands := by
    rw [pendingDemands, List.foldl_append, hsilent]
    rfl
  refine ⟨h.recurs, h.held, h.posted, ?_, ?_, ?_⟩ <;> rw [hpending]
  · exact h.session
  · exact h.idle
  · exact h.due

theorem DemandsHeld.endTask (h : s.DemandsHeld) (a : Surroundings) (result : TaskCompletion)
    (href : s.pActiveTask = some ref ∨ ref ∉ s.sessionTasks) :
    (s.endTask a ref result).DemandsHeld := by
  have hupdated := h.update ((s.tasks ref).complete result a.now) href rfl
  rw [endTask_eq]
  exact hupdated.log fun pending => foldl_bookDemand_endEntries _ ref result pending

/-! ## Moves, demands and the other events -/

/-- A move starts a task that was demanded, or keeps the demand. -/
theorem DemandsHeld.move (h : s.DemandsHeld) (hmove : Move a s s') : s'.DemandsHeld := by
  cases hmove with
  | frame hframed => exact h.aside hframed.aside
  | traffic htraffic => exact h.aside (aside_note s htraffic.isAside)
  | progress hactive hbody => exact h.update _ (.inl hactive) hbody.isRecurring
  | start hidle hperm =>
    rename_i ref rest
    have hpending : (s.started ref rest).pendingDemands = s.pendingDemands.filter (· ≠ ref) :=
      pendingDemands_append [.taskStart ref] rfl
    have hne {ref' : TaskRef} (hmem : ref' ∈ (s.started ref rest).pendingDemands) :
        ref' ∈ s.pendingDemands ∧ ref' ≠ ref := by
      rw [hpending] at hmem
      simpa using hmem
    constructor
    · intro ref' hmem
      by_cases heq : ref' = ref
      · subst heq
        have hrecurs := h.recurs ref' hmem
        rw [← (TaskBody.sameClass_onStart (s.tasks ref').body).isRecurring] at hrecurs
        simpa [started, IMasterTask.start] using hrecurs
      · simpa [started, heq] using h.recurs ref' hmem
    · intro honline ref' hmem
      obtain hwaits | hactive := h.held honline ref' hmem
      · rcases List.mem_cons.mp (hperm.mem_iff.mp hwaits) with rfl | hrest
        · exact .inr rfl
        · exact .inl hrest
      · rw [hidle] at hactive
        cases hactive
    · exact h.posted
    · exact fun ref' hmem => h.session ref' (hne hmem).1
    · intro ref' hmem hactive
      exact (hne hmem).2 (Option.some.inj hactive).symm
    · intro ref' hmem
      simpa [started, (hne hmem).2] using h.due ref' (hne hmem).1
  | finish hactive result =>
    rename_i ref
    have hended := h.endTask a result (.inl hactive)
    have hactive' : (s.endTask a ref result).pActiveTask = some ref := by
      rw [endTask_eq]
      exact hactive
    obtain ⟨timer, hcompleted⟩ := completeActiveTask_some hactive'
    generalize s.endTask a ref result = s₁ at hended hactive' hcompleted ⊢
    rw [hcompleted]
    refine ⟨hended.recurs, ?_, ?_, hended.session, by simp, hended.due⟩
    · intro honline ref' hmem
      obtain hwaits | hactive := hended.held honline ref' hmem
      · exact .inl (List.mem_append_left _ hwaits)
      · obtain rfl : ref = ref' := Option.some.inj (hactive'.symm.trans hactive)
        have hrecurs : (s₁.tasks ref).body.isRecurring = true := hended.recurs ref hmem
        simp [hrecurs]
    · simpa [postedDemands] using hended.posted
  | timeout hwaits honce =>
    rename_i ref
    have hother : ref ∉ s.sessionTasks := by
      intro hmem
      rw [h.recurs ref hmem] at honce
      cases honce
    have hended := h.endTask a .failureStartTimeout (.inr hother)
    refine ⟨hended.recurs, ?_, hended.posted, hended.session, hended.idle, hended.due⟩
    intro honline ref' hmem
    have hsession : (s.timedOut a ref).sessionTasks = s.sessionTasks :=
      sessionTasks_congr (by rw [timedOut_eq])
    have hne : ref' ≠ ref := by
      rintro rfl
      exact hother (hsession ▸ hmem)
    have hscheduler : (s.endTask a ref .failureStartTimeout).scheduler = s.scheduler := by
      rw [endTask_eq]
    obtain hwaits | hactive := hended.held honline ref' hmem
    · rw [hscheduler] at hwaits
      exact .inl ((List.mem_erase_of_ne hne).mpr hwaits)
    · exact .inr hactive

theorem DemandsHeld.moves (h : s.DemandsHeld) (hmoves : Moves a s s') : s'.DemandsHeld :=
  hmoves.keeps (fun _ _ hmove hs => DemandsHeld.move hs hmove) h

/-- A task of the session that is not active is demanded. -/
theorem DemandsHeld.demand (h : s.DemandsHeld) (hsession : ref ∈ s.sessionTasks)
    (hidle : s.pActiveTask ≠ some ref) : (s.demand ref).DemandsHeld := by
  have hpending : (s.demand ref).pendingDemands = ref :: s.pendingDemands :=
    pendingDemands_append [.demand ref] rfl
  have hmem {P : TaskRef → Prop} (href : P ref) (hrest : ∀ ref' ∈ s.pendingDemands, P ref') :
      ∀ ref' ∈ (s.demand ref).pendingDemands, P ref' := by
    rw [hpending]
    exact List.forall_mem_cons.mpr ⟨href, hrest⟩
  refine ⟨?_, h.held, h.posted, hmem hsession h.session, hmem hidle h.idle, ?_⟩
  · intro ref' href'
    by_cases heq : ref' = ref
    · subst heq
      simpa [demand_eq, IMasterTask.demand] using h.recurs ref' href'
    · simpa [demand_eq, heq] using h.recurs ref' href'
  · intro ref' href'
    by_cases heq : ref' = ref
    · subst heq
      simp [demand_eq, IMasterTask.demand]
    · rw [hpending] at href'
      have hrest : ref' ∈ s.pendingDemands := by simpa [heq] using href'
      simpa [demand_eq, heq] using h.due ref' hrest

theorem demanded_subset (params : MasterParams) (iin : IINField) (h : ref ∈ demanded params iin) :
    ref ∈ s.sessionTasks := by
  unfold demanded at h
  simp only [List.mem_append] at h
  rcases h with ((h | h) | h) | h <;> split at h <;> simp at h
  · rcases h with rfl | rfl | rfl | rfl <;> simp [sessionTasks]
  all_goals simp [sessionTasks, h]

/-- Indications demand tasks that are not active. -/
theorem DemandsHeld.processIIN (h : s.DemandsHeld) {iin : IINField}
    (hidle : ∀ ref ∈ demanded s.params iin, s.pActiveTask ≠ some ref) :
    (s.processIIN iin).DemandsHeld := by
  unfold MContext.processIIN
  have hsession : ∀ ref ∈ demanded s.params iin, ref ∈ s.sessionTasks :=
    fun ref hmem => demanded_subset s.params iin hmem
  generalize demanded s.params iin = refs at hidle hsession
  induction refs generalizing s with
  | nil => exact h
  | cons ref refs ih =>
    refine ih (h.demand (hsession ref (by simp)) (hidle ref (by simp))) ?_ ?_
    · exact fun ref' hmem => hidle ref' (by simp [hmem])
    · exact fun ref' hmem => hsession ref' (by simp [hmem])

theorem DemandsHeld.respondedTo (h : s.DemandsHeld) {header : APDUResponseHeader}
    {objects : List UInt8} (hresponded : (s.noteReceived header objects).respondedTo a s.received
      header objects = some s') : s'.DemandsHeld ∧ s'.params = s.params := by
  obtain ⟨hbefore, hconfirms, hafter⟩ := handled_respondedTo hresponded
  have hnoted := h.aside (aside_noteReceived s header objects)
  refine ⟨((hnoted.moves hbefore).aside hconfirms.aside).moves hafter, ?_⟩
  rw [hafter.unconfirmed.params, hconfirms.aside.params, hbefore.unconfirmed.params]
  rfl

theorem DemandsHeld.wentUp (h : s.DemandsHeld) : s.wentUp.DemandsHeld := by
  obtain ⟨timer, hup⟩ := wentUp_eq s
  have hlogged : DemandsHeld { s with log := s.log ++ [.up] } := h.log fun _ => rfl
  rw [hup]
  refine ⟨hlogged.recurs, ?_, ?_, hlogged.session, hlogged.idle, hlogged.due⟩
  · exact fun _ ref hmem => .inl (List.mem_append_right _ hmem)
  · simpa [postedDemands] using h.posted

/-- The layer going down takes no demand back. -/
theorem DemandsHeld.wentDown (h : s.DemandsHeld) : (s.wentDown a).DemandsHeld := by
  have hended : (s.cutOff a).DemandsHeld := by
    unfold cutOff
    cases hactive : s.pActiveTask with
    | none => exact h
    | some ref => exact h.endTask a .failureNoComms (.inl hactive)
  unfold MContext.wentDown
  generalize s.cutOff a = s₁ at hended
  have hlogged : DemandsHeld { s₁ with log := s₁.log ++ [.down] } := hended.log fun _ => rfl
  exact ⟨hlogged.recurs, by simp, hlogged.posted, hlogged.session, by simp, hlogged.due⟩

/-- A task of the user is not demanded. -/
theorem DemandsHeld.addAdhoc (h : s.DemandsHeld) (a : Surroundings) (request : UserRequest) :
    (s.addAdhoc a request).DemandsHeld := by
  have hother := adhoc_notMem_sessionTasks s s.adhocTasks
  have hne {ref : TaskRef} (hmem : ref ∈ s.sessionTasks) : ref ≠ .adhoc s.adhocTasks := by
    rintro rfl
    exact hother hmem
  have hpending : (s.addAdhoc a request).pendingDemands = s.pendingDemands :=
    pendingDemands_append [.scheduled _] rfl
  refine ⟨?_, h.held, h.posted, ?_, ?_, ?_⟩
  · intro ref hmem
    simpa [MContext.addAdhoc, hne hmem] using h.recurs ref hmem
  · rw [hpending]
    exact h.session
  · rw [hpending]
    exact h.idle
  · intro ref hmem
    rw [hpending] at hmem
    simpa [MContext.addAdhoc, hne (h.session ref hmem)] using h.due ref hmem

theorem DemandsHeld.schedule (h : s.DemandsHeld) (ref : TaskRef) :
    (s.schedule ref).DemandsHeld := by
  refine ⟨h.recurs, fun honline ref' hmem => ?_, h.posted, h.session, h.idle, h.due⟩
  obtain hwaits | hactive := h.held honline ref' hmem
  · exact .inl (List.mem_append_left _ hwaits)
  · exact .inr hactive

/-- A scan is added to the session. -/
theorem DemandsHeld.addScan (h : s.DemandsHeld) (period : Int) :
    (s.addScan period).DemandsHeld := by
  have hsession {s₁ : MContext} (hbound : s₁.boundTasks = s.boundTasks + 1) :
      s₁.sessionTasks = s.sessionTasks ++ [TaskRef.bound s.boundTasks] := by
    simp [sessionTasks, hbound, List.range_succ]
  have hne {ref : TaskRef} (hmem : ref ∈ s.sessionTasks) : ref ≠ .bound s.boundTasks := by
    rintro rfl
    simp [sessionTasks] at hmem
  set task : IMasterTask := .ofBody (.userPoll true period 0)
  set s₁ : MContext := { s with
    boundTasks := s.boundTasks + 1
    tasks := Function.update s.tasks (.bound s.boundTasks) task } with hs₁
  have hsession₁ : s₁.sessionTasks = s.sessionTasks ++ [TaskRef.bound s.boundTasks] := hsession rfl
  have hrecurs : ∀ ref ∈ s₁.sessionTasks, (s₁.tasks ref).body.isRecurring = true := by
    intro ref hmem
    rw [hsession₁, List.mem_append, List.mem_singleton] at hmem
    rcases hmem with hmem | rfl
    · simpa [hs₁, hne hmem] using h.recurs ref hmem
    · simp [hs₁, task, IMasterTask.ofBody, TaskBody.isRecurring]
  have hposted : ∀ scan ∈ s.postedDemands, scan < s.boundTasks + 1 :=
    fun scan hmem => Nat.lt_succ_of_lt (h.posted scan hmem)
  have hpending : ∀ ref ∈ s.pendingDemands, ref ∈ s₁.sessionTasks := by
    intro ref hmem
    rw [hsession₁]
    exact List.mem_append_left _ (h.session ref hmem)
  have hdue : ∀ ref ∈ s.pendingDemands, (s₁.tasks ref).state = .immediately := by
    intro ref hmem
    simpa [hs₁, hne (h.session ref hmem)] using h.due ref hmem
  unfold MContext.addScan
  dsimp only
  split
  · refine ⟨hrecurs, ?_, ?_, hpending, h.idle, hdue⟩
    · intro honline ref hmem
      have hmem₁ : ref ∈ s₁.sessionTasks := hmem
      rw [hsession₁, List.mem_append, List.mem_singleton] at hmem₁
      rcases hmem₁ with hmem₁ | rfl
      · obtain hwaits | hactive := h.held honline ref hmem₁
        · exact .inl (List.mem_append_left _ hwaits)
        · exact .inr hactive
      · exact .inl (List.mem_append_right _ (by simp))
    · simpa [postedDemands, MContext.schedule, recalculateTaskStartTimeout, postCheckForTask]
        using hposted
  next hoffline =>
    exact ⟨hrecurs, fun honline => absurd honline hoffline, hposted, hpending, h.idle, hdue⟩

theorem demandsHeld_initial (params : MasterParams) : (initial params).DemandsHeld := by
  refine ⟨?_, ?_, ?_, ?_, ?_, ?_⟩
  · simp [initial, sessionTasks, initialTasks, IMasterTask.ofBody, TaskBody.isRecurring]
  all_goals simp [initial, postedDemands, pendingDemands]

/-- Every event in which no active task is demanded keeps the demands. -/
theorem DemandsHeld.step (h : s.DemandsHeld) (hsettled : s.Settled) {e : Event × Surroundings}
    (he : s.DemandsIdle e) : (s.step e).DemandsHeld := by
  have hcase := hsettled.step_cases e
  generalize s.step e = s' at hcase
  cases hcase with
  | moves hmoves => exact h.moves hmoves
  | up _ => exact h.wentUp
  | down _ => exact h.wentDown
  | sent _ hmoves =>
    have hsent : Aside s { s with isSending := false } := Framed.aside (by constructor <;> rfl)
    exact ((h.aside hsent).aside (aside_checkConfirmTransmit _)).moves hmoves
  | ignored _ _ => exact h.aside (aside_noteReceived s _ _)
  | responded _ hparse hresponded =>
    obtain ⟨hheld, hparams⟩ := h.respondedTo hresponded
    refine hheld.processIIN ?_
    rw [hparams]
    simpa [DemandsIdle, demandsOf, hparse, hresponded] using he
  | demand hposted =>
    rename_i a scan rest
    have hdemands : s.postedDemands = scan :: postedDemands { s with posted := rest } := by
      simp [postedDemands, hposted]
    have hrest : DemandsHeld { s with posted := rest } := by
      refine ⟨h.recurs, h.held, fun scan' hmem => ?_, h.session, h.idle, h.due⟩
      exact h.posted scan' (by simp [hdemands, hmem])
    refine hrest.demand ?_ ?_
    · have hscan : scan < s.boundTasks := h.posted scan (by simp [hdemands])
      simpa [sessionTasks] using hscan
    · simpa [DemandsIdle, demandsOf, hposted] using he
  | adhoc _ hmoves => exact ((h.addAdhoc _ _).schedule _).moves hmoves
  | refused _ =>
    exact (h.addAdhoc _ _).endTask _ _ (.inr (adhoc_notMem_sessionTasks _ _))
  | addScan => exact h.addScan _
  | demandScan hscan =>
    refine ⟨h.recurs, h.held, ?_, h.session, h.idle, h.due⟩
    intro scan' hmem
    simp only [postedDemands, postCheckForTask, List.filterMap_append, List.mem_append] at hmem
    rcases hmem with (hmem | hmem) | hmem
    · exact h.posted scan' hmem
    · obtain rfl : scan' = _ := by simpa using hmem
      exact hscan
    · simp at hmem

/-! ## Demands of runs -/

/-- When no task is demanded while it is active, every demand is kept until the task starts. -/
theorem demands_kept (params : MasterParams) (events : List (Event × Surroundings))
    (hidle : Throughout step DemandsIdle (initial params) events) :
    Always step DemandsKept (initial params) events := by
  have hinvariant : Always step (fun s => s.Settled ∧ s.DemandsHeld) (initial params) events :=
    always_invariant (fun s e h he => ⟨h.1.step e, h.2.step h.1 he⟩)
      ⟨settled_initial params, demandsHeld_initial params⟩ hidle
  exact hinvariant.imp fun s h => h.2.kept

/-- An unsolicited response with the restart indication. -/
def restartedOutstation : Event := .receive [0xD0, 0x82, 0x80, 0]

/-- The outstation restarts while the master is idle. -/
theorem demands_kept_idle :
    Always step DemandsKept (initial { exampleParams with startupIntegrityClassMask := .none })
      ([.lowerLayerUp, restartedOutstation, .runPosted, .sendResult].map
        fun e => (e, exampleSurroundings)) :=
  demands_kept _ _ (by decide +kernel)

/-- The outstation restarts during the startup integrity poll, which then ends with a response to
its request: the poll is not repeated. -/
theorem demands_lost :
    ¬ Always step DemandsKept (initial { exampleParams with disableUnsolOnStartup := false })
      ([.lowerLayerUp, .runPosted, .sendResult, restartedOutstation,
        .receive [0xC0, 0x81, 0, 0]].map fun e => (e, exampleSurroundings)) := by
  intro h
  have hkept := h.last (by decide +kernel) .startupIntegrity (by decide +kernel)
  exact absurd (hkept.due exampleSurroundings (by decide +kernel)) (by decide +kernel)

end MContext
end Master
end Dnp3
