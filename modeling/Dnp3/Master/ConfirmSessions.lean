import Dnp3.Library.Observer
import Dnp3.Master.MasterSettled

/-!
# Confirms and sessions

A confirm belongs to a session: the outstation gives up waiting for it when the connection is lost.
An observer of the log of a master knows the responses of the session that may still be confirmed; a
confirm is allowed for one of them, once.

When the layer below goes down, a master forgets everything about the session but the queue of
confirms.  A confirm that waits there for the end of a transmission is sent in the next session,
behind the first request.  As long as the queue is empty whenever the layer goes down, every confirm
is for a response of its session.
-/

namespace Dnp3
namespace Master
namespace MContext

open App Library Relation

variable {s s' : MContext} {a : Surroundings}

/-! ## The observer -/

/-- The responses of a session that have not been confirmed, with their numbers. -/
abbrev ConfirmBooks := List (Nat × APDUResponseHeader)

/-- The confirm is the one that an unconfirmed response asks for. -/
def Answers (b : ConfirmBooks) (id : Nat) (confirm : APDUHeader) : Prop :=
  ∃ response ∈ b, response.1 = id ∧ response.2.control.CON = true ∧
    confirm = confirmOf response.2

instance (b : ConfirmBooks) (id : Nat) (confirm : APDUHeader) :
    Decidable (Answers b id confirm) :=
  inferInstanceAs (Decidable (∃ response ∈ b, _))

/-- Every confirm is for a response of the session, and each response is confirmed once. -/
def confirmObserver : Observer ConfirmBooks Entry where
  allows b entry :=
    match entry with
    | .confirm id confirm => Answers b id confirm
    | _ => True
  next b entry :=
    match entry with
    | .up => []
    | .received id header _ => b ++ [(id, header)]
    | .confirm id _ => b.filter fun response => response.1 ≠ id
    | _ => b

instance (b : ConfirmBooks) (entry : Entry) : Decidable (confirmObserver.allows b entry) := by
  unfold confirmObserver
  cases entry <;> infer_instance

/-- The confirms that are owed. -/
def confirmBooks (s : MContext) : ConfirmBooks := confirmObserver.after [] s.log

/-- The confirms of a run are those of its sessions. -/
def ConfirmsFresh (s : MContext) : Prop := confirmObserver.Accepts [] s.log

instance (s : MContext) : Decidable s.ConfirmsFresh :=
  inferInstanceAs (Decidable (confirmObserver.Accepts [] s.log))

/-- No confirm waits when the layer goes down. -/
def DownWithoutConfirms (s : MContext) (e : Event × Surroundings) : Prop :=
  match e.1 with
  | .lowerLayerDown => s.isOnline = true → s.confirmQueue = []
  | _ => True

instance (s : MContext) (e : Event × Surroundings) : Decidable (s.DownWithoutConfirms e) := by
  unfold DownWithoutConfirms
  cases e.1 <;> infer_instance

/-! ## What the queue holds -/

/-- Entries that say nothing about sessions, responses or confirms. -/
def IsSilent : Entry → Prop
  | .up | .received _ _ _ | .confirm _ _ => False
  | _ => True

theorem IsMove.isSilent {entry : Entry} (h : IsMove entry) : IsSilent entry := by
  rcases h with ⟨⟨_, _⟩ | ⟨_, _⟩⟩ | _ | _ | _ <;> trivial

theorem confirmObserver_silent {entry : Entry} (h : IsSilent entry) (b : ConfirmBooks) :
    confirmObserver.allows b entry ∧ confirmObserver.next b entry = b := by
  cases entry <;> first | exact ⟨trivial, rfl⟩ | exact h.elim

/-- The confirms are left alone. -/
structure Quiet (s s' : MContext) : Prop where
  isOnline : s'.isOnline = s.isOnline
  confirmQueue : s'.confirmQueue = s.confirmQueue
  received : s'.received = s.received
  log : ∃ entries, s'.log = s.log ++ entries ∧ ∀ entry ∈ entries, IsSilent entry

theorem Quiet.books (h : Quiet s s') : s'.confirmBooks = s.confirmBooks := by
  obtain ⟨entries, hlog, hsilent⟩ := h.log
  rw [confirmBooks, hlog]
  exact confirmObserver.after_append_silent fun entry hentry =>
    confirmObserver_silent (hsilent entry hentry)

theorem Quiet.fresh (h : Quiet s s') : s'.ConfirmsFresh ↔ s.ConfirmsFresh := by
  obtain ⟨entries, hlog, hsilent⟩ := h.log
  rw [ConfirmsFresh, hlog]
  exact confirmObserver.accepts_append_silent fun entry hentry =>
    confirmObserver_silent (hsilent entry hentry)

theorem Moves.quiet (h : Moves a s s') : Quiet s s' where
  isOnline := h.unconfirmed.isOnline
  confirmQueue := h.unconfirmed.confirmQueue
  received := h.unconfirmed.received
  log := by
    obtain ⟨entries, hlog, hmoves⟩ := h.log
    exact ⟨entries, hlog, fun entry hentry => (hmoves entry hentry).isSilent⟩

theorem quiet_endTask (s : MContext) (a : Surroundings) (ref : TaskRef)
    (result : TaskCompletion) : Quiet s (s.endTask a ref result) := by
  rw [endTask_eq]
  exact ⟨rfl, rfl, rfl, _, rfl, fun entry hentry => (isMove_endEntries hentry).isSilent⟩

theorem quiet_addAdhoc (s : MContext) (a : Surroundings) (request : UserRequest) :
    Quiet s (s.addAdhoc a request) :=
  ⟨rfl, rfl, rfl, [.scheduled _], rfl, by simp [IsSilent]⟩

theorem quiet_schedule (s : MContext) (ref : TaskRef) : Quiet s (s.schedule ref) :=
  ⟨rfl, rfl, rfl, [], (List.append_nil _).symm, by simp⟩

theorem quiet_processIIN (s : MContext) (iin : IINField) : Quiet s (s.processIIN iin) := by
  unfold processIIN
  generalize demanded s.params iin = refs
  induction refs generalizing s with
  | nil => exact ⟨rfl, rfl, rfl, [], by simp, by simp⟩
  | cons ref refs ih =>
    obtain ⟨honline, hqueue, hreceived, entries, hlog, hsilent⟩ := ih (s.demand ref)
    refine ⟨honline, hqueue, hreceived, .demand ref :: entries, ?_, ?_⟩
    · rw [List.foldl_cons, hlog, demand_eq, List.append_assoc]
      rfl
    · simpa [IsSilent] using hsilent

/-- What waits in the queue is for responses of the session, each of them once. -/
structure Owed (s : MContext) : Prop where
  fresh : s.ConfirmsFresh
  answers : ∀ c ∈ s.confirmQueue, Answers s.confirmBooks c.1 c.2
  nodup : (s.confirmQueue.map Prod.fst).Nodup
  old : ∀ c ∈ s.confirmQueue, c.1 < s.received
  offline : s.isOnline = false → s.confirmQueue = []

theorem Owed.quiet (h : s.Owed) (hquiet : Quiet s s') : s'.Owed where
  fresh := hquiet.fresh.mpr h.fresh
  answers := by
    rw [hquiet.confirmQueue, hquiet.books]
    exact h.answers
  nodup := by
    rw [hquiet.confirmQueue]
    exact h.nodup
  old := by
    rw [hquiet.confirmQueue, hquiet.received]
    exact h.old
  offline := by
    rw [hquiet.confirmQueue, hquiet.isOnline]
    exact h.offline

/-- A confirm that is allowed leaves the other responses to be confirmed. -/
theorem Answers.filter {b : ConfirmBooks} {id id' : Nat} {confirm : APDUHeader}
    (h : Answers b id confirm) (hne : id ≠ id') :
    Answers (b.filter fun response => response.1 ≠ id') id confirm := by
  obtain ⟨response, hmem, rfl, hrest⟩ := h
  exact ⟨response, List.mem_filter.mpr ⟨hmem, by simpa using hne⟩, rfl, hrest⟩

theorem Answers.append {b : ConfirmBooks} {id : Nat} {confirm : APDUHeader}
    (h : Answers b id confirm) (responses : ConfirmBooks) :
    Answers (b ++ responses) id confirm := by
  obtain ⟨response, hmem, hrest⟩ := h
  exact ⟨response, List.mem_append_left _ hmem, hrest⟩

/-- The first confirm of the queue goes out. -/
theorem Owed.checkConfirmTransmit (h : s.Owed) : s.checkConfirmTransmit.Owed := by
  obtain heq | ⟨id, confirm, queue, mem, -, hqueue, heq⟩ := checkConfirmTransmit_cases s
  · rw [heq]
    exact h
  · rw [heq]
    have hnodup := h.nodup
    rw [hqueue, List.map_cons, List.nodup_cons] at hnodup
    have hbooks : confirmObserver.after [] (s.log ++ [Entry.confirm id confirm]) =
        s.confirmBooks.filter fun response => response.1 ≠ id :=
      confirmObserver.after_concat [] s.log _
    refine ⟨?_, ?_, hnodup.2, ?_, ?_⟩
    · exact confirmObserver.accepts_concat h.fresh (h.answers (id, confirm) (by simp [hqueue]))
    · intro c hc
      have hne : c.1 ≠ id := by
        intro heq
        exact hnodup.1 (List.mem_map.mpr ⟨c, hc, heq⟩)
      have hanswers := h.answers c (by simp [hqueue, show c ∈ queue from hc])
      unfold confirmBooks
      rw [hbooks]
      exact hanswers.filter hne
    · intro c hc
      exact h.old c (by simp [hqueue, show c ∈ queue from hc])
    · intro hoffline
      simp [h.offline hoffline] at hqueue

/-- A confirm is queued for a response that has just been received. -/
theorem Owed.queueConfirm (h : s.Owed) (honline : s.isOnline = true) {id : Nat}
    {header : APDUResponseHeader} (hreceived : s.received = id + 1)
    (hold : ∀ c ∈ s.confirmQueue, c.1 < id) (hbooks : (id, header) ∈ s.confirmBooks)
    (hcon : header.control.CON = true) : (s.queueConfirm id (confirmOf header)).Owed := by
  apply Owed.checkConfirmTransmit
  refine ⟨h.fresh, ?_, ?_, ?_, by simp [honline]⟩
  · intro c hc
    rcases List.mem_append.mp hc with hc | hc
    · exact h.answers c hc
    · obtain rfl : c = (id, confirmOf header) := by simpa using hc
      exact ⟨(id, header), hbooks, rfl, hcon, rfl⟩
  · rw [List.map_append, List.nodup_append]
    refine ⟨h.nodup, by simp, ?_⟩
    intro x hx y hy
    obtain ⟨c, hc, rfl⟩ := List.mem_map.mp hx
    obtain rfl : y = id := by simpa using hy
    exact Nat.ne_of_lt (hold c hc)
  · intro c hc
    rcases List.mem_append.mp hc with hc | hc
    · exact h.old c hc
    · obtain rfl : c = (id, confirmOf header) := by simpa using hc
      show id < s.received
      omega

/-- A response is received. -/
theorem Owed.noteReceived (h : s.Owed) (header : APDUResponseHeader) (objects : List UInt8) :
    (s.noteReceived header objects).Owed ∧
      (s.received, header) ∈ (s.noteReceived header objects).confirmBooks := by
  have hbooks : (s.noteReceived header objects).confirmBooks =
      s.confirmBooks ++ [(s.received, header)] :=
    confirmObserver.after_concat [] s.log _
  refine ⟨⟨?_, ?_, h.nodup, ?_, h.offline⟩, by simp [hbooks]⟩
  · exact confirmObserver.accepts_concat h.fresh trivial
  · intro c hc
    rw [hbooks]
    exact (h.answers c hc).append _
  · intro c hc
    exact Nat.lt_succ_of_lt (h.old c hc)

/-- A response is handled. -/
theorem Owed.respondedTo (h : s.Owed) (honline : s.isOnline = true) {header : APDUResponseHeader}
    {objects : List UInt8} (hresponded : (s.noteReceived header objects).respondedTo a s.received
      header objects = some s') : s'.Owed := by
  obtain ⟨hbefore, hconfirms, hafter⟩ := handled_respondedTo hresponded
  rename_i s₁ s₂
  obtain ⟨hnoted, hreceived⟩ := h.noteReceived header objects
  have howed : s₁.Owed := hnoted.quiet hbefore.quiet
  suffices s₂.Owed from this.quiet hafter.quiet
  cases hconfirms with
  | none => exact howed
  | queued hcon =>
    refine howed.queueConfirm (hbefore.quiet.isOnline.trans honline) hbefore.quiet.received ?_ ?_
      hcon
    · rw [hbefore.quiet.confirmQueue]
      exact h.old
    · rw [hbefore.quiet.books]
      exact hreceived

theorem quiet_wentDown (s : MContext) (a : Surroundings) : ∃ entries,
    (s.wentDown a).log = s.log ++ entries ∧ ∀ entry ∈ entries, IsSilent entry := by
  unfold wentDown cutOff
  cases hactive : s.pActiveTask with
  | none => exact ⟨[.down], rfl, by simp [IsSilent]⟩
  | some ref =>
    refine ⟨endEntries (s.tasks ref) ref .failureNoComms ++ [Entry.down], ?_, ?_⟩
    · simp [endTask_eq]
    · intro entry hentry
      rcases List.mem_append.mp hentry with hentry | hentry
      · exact (isMove_endEntries hentry).isSilent
      · obtain rfl : entry = .down := by simpa using hentry
        trivial

/-- The log of an offline master says the same when the master goes down. -/
theorem Owed.wentDown (h : s.Owed) (hqueue : s.confirmQueue = []) : (s.wentDown a).Owed := by
  have hconfirmQueue : (s.wentDown a).confirmQueue = [] := by
    unfold MContext.wentDown cutOff
    cases s.pActiveTask <;> simp [endTask_eq, hqueue]
  obtain ⟨entries, hlog, hsilent⟩ := quiet_wentDown s a
  refine ⟨?_, ?_, ?_, ?_, fun _ => hconfirmQueue⟩
  · rw [ConfirmsFresh, hlog]
    exact (confirmObserver.accepts_append_silent fun entry hentry =>
      confirmObserver_silent (hsilent entry hentry)).mpr h.fresh
  all_goals simp [hconfirmQueue]

theorem Owed.wentUp (h : s.Owed) (hoffline : s.isOnline = false) : s.wentUp.Owed := by
  obtain ⟨timer, hup⟩ := wentUp_eq s
  have hqueue := h.offline hoffline
  rw [hup]
  refine ⟨confirmObserver.accepts_concat h.fresh trivial, ?_, ?_, ?_, ?_⟩ <;> simp [hqueue]

theorem owed_initial (params : MasterParams) : (initial params).Owed := by
  refine ⟨trivial, ?_, ?_, ?_, ?_⟩ <;> simp [initial]

theorem Owed.step (h : s.Owed) (hsettled : s.Settled) {e : Event × Surroundings}
    (he : s.DownWithoutConfirms e) : (s.step e).Owed := by
  have hcase := hsettled.step_cases e
  generalize s.step e = s' at hcase
  cases hcase with
  | moves hmoves => exact h.quiet hmoves.quiet
  | up hoffline => exact h.wentUp hoffline
  | down honline => exact h.wentDown (he honline)
  | sent _ hmoves =>
    have hsent : Owed { s with isSending := false } :=
      h.quiet ⟨rfl, rfl, rfl, [], by simp, by simp⟩
    exact hsent.checkConfirmTransmit.quiet hmoves.quiet
  | ignored _ _ => exact (h.noteReceived _ _).1
  | responded honline _ hresponded =>
    exact (h.respondedTo honline hresponded).quiet (quiet_processIIN _ _)
  | demand _ =>
    exact h.quiet ⟨rfl, rfl, rfl, [.demand _], rfl, by simp [IsSilent]⟩
  | adhoc _ hmoves =>
    exact ((h.quiet (quiet_addAdhoc s _ _)).quiet (quiet_schedule _ _)).quiet hmoves.quiet
  | refused _ =>
    exact (h.quiet (quiet_addAdhoc s _ _)).quiet (quiet_endTask _ _ _ _)
  | addScan =>
    refine h.quiet ?_
    unfold MContext.addScan
    dsimp only
    split <;> exact ⟨rfl, rfl, rfl, [], by simp [schedule, recalculateTaskStartTimeout,
      postCheckForTask], by simp⟩
  | demandScan _ => exact h.quiet ⟨rfl, rfl, rfl, [], (List.append_nil _).symm, by simp⟩

/-! ## Confirms of runs -/

/-- When no confirm waits whenever the layer goes down, every confirm is for a response of its
session, and no response is confirmed twice. -/
theorem confirms_fresh (params : MasterParams) (events : List (Event × Surroundings))
    (hdown : Throughout step DownWithoutConfirms (initial params) events) :
    Always step ConfirmsFresh (initial params) events := by
  have hinvariant : Always step (fun s => s.Settled ∧ s.Owed) (initial params) events :=
    always_invariant (fun s e h he => ⟨h.1.step e, h.2.step h.1 he⟩)
      ⟨settled_initial params, owed_initial params⟩ hdown
  exact hinvariant.imp fun s h => h.2.fresh

/-- A configuration with the defaults for the times and the sizes. -/
def exampleParams : MasterParams where
  responseTimeout := 5000
  disableUnsolOnStartup := true
  unsolClassMask := ⟨0xE⟩
  startupIntegrityClassMask := ⟨0xF⟩
  integrityOnEventOverflowIIN := true
  eventScanOnEventsAvailableClassMask := .none
  taskRetryPeriod := 5000
  taskStartTimeout := 10000
  maxTxFragSize := 2048

/-- An application that has nothing to write, at the time zero. -/
def exampleSurroundings : Surroundings where
  now := 0
  acquires := true
  assignClassDuringStartup := false
  builder := fun writer => (writer, true)
  utcResponse := 0
  utcRequest := 0

/-- The first request is sent, and its response, which asks for a confirm, comes before the result
of the transmission. -/
def responseWhileSending : List (Event × Surroundings) :=
  [.lowerLayerUp, .runPosted, .receive [0xE0, 0x81, 0, 0]].map fun e => (e, exampleSurroundings)

/-- The result of the transmission comes before the connection is lost. -/
theorem confirms_fresh_sent :
    Always step ConfirmsFresh (initial exampleParams)
      (responseWhileSending ++ [(.sendResult, exampleSurroundings),
        (.lowerLayerDown, exampleSurroundings), (.lowerLayerUp, exampleSurroundings)]) :=
  confirms_fresh exampleParams _ (by decide +kernel)

/-- The connection is lost while the confirm waits.  In the next session it is sent behind the first
request. -/
theorem confirms_stale :
    ¬ Always step ConfirmsFresh (initial exampleParams)
      (responseWhileSending ++ [(.lowerLayerDown, exampleSurroundings),
        (.lowerLayerUp, exampleSurroundings), (.runPosted, exampleSurroundings),
        (.sendResult, exampleSurroundings)]) := by
  decide +kernel

end MContext
end Master
end Dnp3
