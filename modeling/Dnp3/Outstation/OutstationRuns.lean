import Dnp3.Library.Runs
import Dnp3.Outstation.OutstationContext
import Dnp3.Outstation.StaticResponse

/-!
# Runs of an outstation

An event makes the outstation do a few things one after the other, such as to take in a request, to
take up a deferred one, and to report events.  These are the actions; a statement about all runs is
proved for every action.

What the handlers of requests do to the state is said once here: they leave the event buffer, the
responses and their state machines alone.

A property of runs is proved for one action and then holds of all runs (`always_step_invariant`,
`run_step_keeps`); conditions on a run are conditions on its actions in the states they are done in
(`ActsThroughout`).  What the handlers of requests may change of an outstation is collected in
`Handled`, so that proofs about anything else need not look into a handler.  `ActsThroughout.online`
and `ActsThroughout.parse` say what can be relied on when a fragment comes in.
-/

namespace Dnp3
namespace Outstation

open App Library

/-- The effects of the handlers of requests. -/
def Effect.isHandling : Effect → Bool
  | .selected .. => true
  | .operated .. => true
  | .classAssigned .. => true
  | _ => false

namespace OContext

variable {W : Type} {cb : Callbacks W}

/-! ## What the handlers change -/

/-- What the handler of a request may change. -/
def Handled (s s' : OContext W) : Prop :=
  ∃ world staticIIN control database mask effects,
    s' = { s with
      world := world
      staticIIN := staticIIN
      control := control
      database := database
      params := { s.params with unsolClassMask := mask }
      log := s.log ++ effects } ∧
    s.database.SameSelection database ∧
    (database.class0 = s.database.class0 ∧ database.indexMode = s.database.indexMode) ∧
    ∀ e ∈ effects, Effect.isHandling e = true

namespace Handled

theorem refl (s : OContext W) : Handled s s :=
  ⟨s.world, s.staticIIN, s.control, s.database, s.params.unsolClassMask, [],
    by rw [List.append_nil], .refl _, ⟨rfl, rfl⟩, fun _ h => by cases h⟩

/-- Only the surroundings and the restart indication change. -/
theorem of_world (s : OContext W) (world : W) (staticIIN : IINField) :
    Handled s { s with world := world, staticIIN := staticIIN } :=
  ⟨world, staticIIN, s.control, s.database, s.params.unsolClassMask, [],
    by rw [List.append_nil], .refl _, ⟨rfl, rfl⟩, fun _ h => by cases h⟩

theorem of_mask (s : OContext W) (mask : ClassField) : Handled s (s.setUnsolClassMask mask) :=
  ⟨s.world, s.staticIIN, s.control, s.database, mask, [],
    by rw [List.append_nil]; rfl, .refl _, ⟨rfl, rfl⟩, fun _ h => by cases h⟩

/-- An effect of a handler, and a change of the control state. -/
theorem of_control (s : OContext W) (world : W) (control : ControlState) {e : Effect}
    (he : e.isHandling = true) :
    Handled s ({ s with world := world, control := control }.note e) := by
  refine ⟨world, s.staticIIN, control, s.database, s.params.unsolClassMask, [e], rfl, .refl _,
    ⟨rfl, rfl⟩, fun e' h => ?_⟩
  rw [List.mem_singleton.mp h]
  exact he

end Handled

theorem handled_handleSelect (s : OContext W) (objects : List UInt8) (writer : HeaderWriter) :
    Handled s (s.handleSelect cb objects writer).1 := by
  unfold handleSelect
  split
  · exact .refl s
  · dsimp only
    split
    · exact .of_control s _ _ rfl
    · exact .of_world s _ s.staticIIN

theorem handled_handleOperate (s : OContext W) (objects : List UInt8) (writer : HeaderWriter) :
    Handled s (s.handleOperate cb objects writer).1 := by
  unfold handleOperate
  split
  · exact .refl s
  · dsimp only
    split
    · exact .of_control s _ s.control rfl
    · exact .refl s

theorem handled_handleDirectOperate (s : OContext W) (objects : List UInt8)
    (writer : Option HeaderWriter) : Handled s (s.handleDirectOperate cb objects writer).1 := by
  unfold handleDirectOperate
  split
  · exact .refl s
  · exact .of_world s _ s.staticIIN

theorem handled_handleRestart (s : OContext W) (objects : List UInt8) (isWarmRestart : Bool)
    (writer : HeaderWriter) : Handled s (s.handleRestart cb objects isWarmRestart writer).1 := by
  unfold handleRestart
  split
  · dsimp only
    split
    · exact .refl s
    · exact .of_world s _ s.staticIIN
    · exact .of_world s _ s.staticIIN
  · exact .refl s

end OContext

/-! ### Class assignments -/

namespace AssignClassHandler

/-- Selections and what a READ depends on besides stay. -/
def KeepsSelection (db db' : DatabaseBuffers) : Prop :=
  db.SameSelection db' ∧ db'.class0 = db.class0 ∧ db'.indexMode = db.indexMode

theorem KeepsSelection.assign {db db' : DatabaseBuffers} (h : KeepsSelection db db')
    (type : AssignClassType) (clazz : PointClass) (range : Range) :
    KeepsSelection db (db'.assignClassToRange type clazz range).1 :=
  ⟨h.1.trans (db'.sameSelection_assignClass type clazz range), h.2⟩

theorem database_notify (h : AssignClassHandler) (type : AssignClassType) (clazz : PointClass)
    (range : Range) : (h.notifyApplicationOfAssignment type clazz range).database = h.database := by
  unfold notifyApplicationOfAssignment
  split <;> rfl

/-- A header of an assignment keeps the selections. -/
theorem keepsSelection_processHeader {db : DatabaseBuffers} (current : Nat) (h : AssignClassHandler)
    (header : ObjectHeader) (hkeeps : KeepsSelection db h.database) :
    KeepsSelection db (processHeader current h header).1.database := by
  unfold processHeader
  split
  · unfold processAllObjects
    split
    · dsimp only
      split
      · show KeepsSelection db (notifyApplicationOfAssignment _ _ _ _).database
        rw [database_notify]
        exact hkeeps.assign _ _ _
      · exact hkeeps
    · unfold recordClass
      split <;> exact hkeeps
  · unfold processRange
    split
    · dsimp only
      split
      · show KeepsSelection db (notifyApplicationOfAssignment _ _ _ _).database
        rw [database_notify]
        exact hkeeps.assign _ _ _
      · exact hkeeps
    · exact hkeeps
  · exact hkeeps

theorem keepsSelection_handleAssignClass (database : DatabaseBuffers) (objects : List UInt8) :
    KeepsSelection database (handleAssignClass database objects).1.database := by
  have hinitial : KeepsSelection database (initial database).database := ⟨.refl _, rfl, rfl⟩
  exact APDUHandler.onHeaders_keeps
    (I := fun h : AssignClassHandler => KeepsSelection database h.database)
    keepsSelection_processHeader hinitial _

end AssignClassHandler

namespace OContext

variable {W : Type} {cb : Callbacks W}

theorem handled_handleAssignClass (s : OContext W) (objects : List UInt8) :
    Handled s (s.handleAssignClass cb objects).1 := by
  unfold handleAssignClass
  split
  · obtain ⟨hsame, hsettings⟩ :=
      AssignClassHandler.keepsSelection_handleAssignClass s.database objects
    refine ⟨s.world, s.staticIIN, s.control, _, s.params.unsolClassMask, _, rfl, hsame, hsettings,
      fun e he => ?_⟩
    obtain ⟨assignment, -, rfl⟩ := List.mem_map.mp he
    rfl
  · exact .refl s

/-- Whatever the function of a request is, its handler changes only what handlers change. -/
theorem handled_handleNonReadResponse (s : OContext W) (header : APDUHeader)
    (objects : List UInt8) (writer : HeaderWriter) :
    Handled s (s.handleNonReadResponse cb header objects writer).1 := by
  unfold handleNonReadResponse
  split
  · exact .of_world s _ _
  · exact s.handled_handleSelect objects writer
  · exact s.handled_handleOperate objects writer
  · exact s.handled_handleDirectOperate objects (some writer)
  · exact s.handled_handleRestart objects false writer
  · exact s.handled_handleRestart objects true writer
  · exact s.handled_handleAssignClass objects
  · exact .refl s
  · split
    · unfold handleDisableUnsolicited
      dsimp only
      split
      · exact .of_mask s _
      · exact .refl s
    · exact .refl s
  · split
    · unfold handleEnableUnsolicited
      dsimp only
      split
      · exact .of_mask s _
      · exact .refl s
    · exact .refl s
  · exact .refl s

/-! ## Actions -/

/-- What an event makes the outstation do, one after the other. -/
inductive Action (W : Type) where
  | goOnline
  | goOffline
  /-- The transmission is over, and a deferred request is taken up. -/
  | transmitted
  | parse (fragment : List UInt8)
  /-- The confirm timer expires. -/
  | expire
  | updatePoint (u : DatabaseBuffers.PointUpdate)
  | checkForDeferredRequest
  | checkForUnsolicited
  | setRestartIIN
  | elapse (milliseconds : Nat)
  | surroundings (world : W)

/-- The confirm timer expires; nothing is started yet. -/
def expireTimer (s : OContext W) : OContext W :=
  match s.confirmTimer with
  | none => s
  | some { action := .solicited, .. } =>
    s.cancelConfirmTimer.onSolConfirmTimeout.1.setSolState
      s.cancelConfirmTimer.onSolConfirmTimeout.2
  | some { action := .unsolicited, .. } =>
    s.cancelConfirmTimer.onUnsolConfirmTimeout.1.setUnsolState
      s.cancelConfirmTimer.onUnsolConfirmTimeout.2

variable (cb) in
/-- The part of an event that an action is. -/
def perform (s : OContext W) : Action W → OContext W
  | .goOnline => { s with isOnline := true }
  | .goOffline => s.onLowerLayerDown
  | .transmitted => ({ s with isTransmitting := false }).checkForDeferredRequest cb
  | .parse fragment => s.parseHeader cb fragment
  | .expire => s.expireTimer
  | .updatePoint u => s.updatePoint u
  | .checkForDeferredRequest => s.checkForDeferredRequest cb
  | .checkForUnsolicited => s.checkForUnsolicited cb
  | .setRestartIIN => { s with staticIIN := s.staticIIN.setBit .deviceRestart }
  | .elapse milliseconds => { s with now := s.now + milliseconds }
  | .surroundings world => { s with world := world }

/-- The actions of an event. -/
def actions (s : OContext W) : Event W → List (Action W)
  | .lowerLayerUp =>
    if s.isOnline then [] else [.goOnline, .checkForDeferredRequest, .checkForUnsolicited]
  | .lowerLayerDown => [.goOffline]
  | .sendResult _ =>
    if !s.isOnline || !s.isTransmitting then [] else [.transmitted, .checkForUnsolicited]
  | .receive fragment =>
    if s.isOnline then [.parse fragment, .checkForDeferredRequest, .checkForUnsolicited] else []
  | .confirmTimeout =>
    if s.confirmTimer.isSome then [.expire, .checkForDeferredRequest, .checkForUnsolicited] else []
  | .updates updates =>
    updates.map Action.updatePoint ++ [.checkForDeferredRequest, .checkForUnsolicited]
  | .setRestartIIN => [.setRestartIIN]
  | .elapse milliseconds => [.elapse milliseconds]
  | .surroundings world => [.surroundings world]

/-- An event is its actions. -/
theorem step_eq (s : OContext W) (e : Event W) :
    s.step cb e = run (perform cb) s (s.actions e) := by
  cases e with
  | lowerLayerUp =>
    simp only [step, onLowerLayerUp, actions]
    split <;> rfl
  | lowerLayerDown => rfl
  | sendResult isSuccess =>
    simp only [step, onSendResult, actions]
    split <;> rfl
  | receive fragment =>
    simp only [step, onReceive, actions]
    split <;> rfl
  | confirmTimeout =>
    simp only [step, onConfirmTimeout, actions]
    rcases htimer : s.confirmTimer with _ | ⟨timeout, action⟩
    · rfl
    · cases action with
      | solicited =>
        show _ = ((s.expireTimer).checkForDeferredRequest cb).checkForUnsolicited cb
        rw [expireTimer, htimer]
        rfl
      | unsolicited =>
        show _ = ((s.expireTimer).checkForDeferredRequest cb).checkForUnsolicited cb
        rw [expireTimer, htimer]
        rfl
  | updates updates =>
    simp only [step, onUpdates, actions, run_append]
    have hfold : updates.foldl updatePoint s = run (perform cb) s (updates.map .updatePoint) := by
      rw [run, List.foldl_map]
      rfl
    rw [hfold]
    rfl
  | setRestartIIN => rfl
  | elapse milliseconds => rfl
  | surroundings world => rfl

variable {I : OContext W → Prop} {P : OContext W → Action W → Prop}

/-- Every action of every event meets a condition. -/
def ActsThroughout (cb : Callbacks W) (P : OContext W → Action W → Prop) (s : OContext W)
    (events : List (Event W)) : Prop :=
  Throughout (step cb) (fun s e => Throughout (perform cb) P s (s.actions e)) s events

instance ActsThroughout.decidable [∀ s a, Decidable (P s a)] (s : OContext W)
    (events : List (Event W)) : Decidable (ActsThroughout cb P s events) :=
  inferInstanceAs (Decidable (Throughout (step cb)
    (fun s e => Throughout (perform cb) P s (s.actions e)) s events))

/-- What every action keeps under the condition holds in all states of a run under it. -/
theorem always_step_invariant (hperform : ∀ s a, I s → P s a → I (s.perform cb a))
    {s : OContext W} {events : List (Event W)} (hs : I s) (hevents : ActsThroughout cb P s events) :
    Always (step cb) I s events := by
  refine always_invariant (fun s e hI hacts => ?_) hs hevents
  rw [step_eq]
  exact run_invariant hperform hI hacts

/-- What every action keeps holds after every run. -/
theorem run_step_keeps (hperform : ∀ s a, I s → I (s.perform cb a)) {s : OContext W}
    (events : List (Event W)) (hs : I s) : I (run (step cb) s events) := by
  refine run_keeps (fun s e hI => ?_) events hs
  rw [step_eq]
  exact run_keeps hperform _ hI

theorem always_step_keeps (hperform : ∀ s a, I s → I (s.perform cb a)) {s : OContext W}
    (events : List (Event W)) (hs : I s) : Always (step cb) I s events := by
  refine always_keeps (fun s e hI => ?_) events hs
  rw [step_eq]
  exact run_keeps hperform _ hI

/-- Conditions on actions that agree where an invariant holds agree on runs. -/
theorem actsThroughout_iff {Q : OContext W → Action W → Prop}
    (hperform : ∀ s a, I s → I (s.perform cb a)) (h : ∀ s a, I s → (P s a ↔ Q s a))
    {s : OContext W} {events : List (Event W)} (hs : I s) :
    ActsThroughout cb P s events ↔ ActsThroughout cb Q s events := by
  unfold ActsThroughout
  refine throughout_iff (I := I) ?_ ?_ hs
  · intro s e hI
    rw [step_eq]
    exact run_keeps hperform _ hI
  · intro s e hI
    exact throughout_iff hperform h hI

/-- What follows from a condition on actions where an invariant holds that is kept under it. -/
theorem ActsThroughout.imp {Q : OContext W → Action W → Prop}
    (hperform : ∀ s a, I s → P s a → I (s.perform cb a))
    (h : ∀ s a, I s → P s a → Q s a) {s : OContext W} {events : List (Event W)} (hs : I s)
    (hevents : ActsThroughout cb P s events) : ActsThroughout cb Q s events := by
  unfold ActsThroughout at hevents ⊢
  refine Throughout.imp (I := I) ?_ ?_ hs hevents
  · intro s e hI hacts
    rw [step_eq]
    exact run_invariant hperform hI hacts
  · intro s e hI hacts
    exact Throughout.imp hperform h hI hacts

/-- An action is a reaction to the lower layer. -/
def Action.isReceived : Action W → Bool
  | .transmitted => true
  | .parse _ => true
  | _ => false

/-- The lower layer is heard only while the outstation is online. -/
theorem ActsThroughout.online {s : OContext W} {events : List (Event W)}
    (h : ActsThroughout cb P s events) :
    ActsThroughout cb (fun s a => P s a ∧ (a.isReceived = true → s.isOnline = true)) s events := by
  unfold ActsThroughout at h ⊢
  refine Throughout.imp (I := fun _ => True) (fun _ _ _ _ => trivial) ?_ trivial h
  intro s e _ hacts
  have hnone : ∀ {s : OContext W} {actions : List (Action W)},
      (∀ a ∈ actions, a.isReceived = false) → Throughout (perform cb) P s actions →
      Throughout (perform cb)
        (fun s a => P s a ∧ (a.isReceived = true → s.isOnline = true)) s actions := by
    intro s actions hactions hacts
    induction actions generalizing s with
    | nil => exact trivial
    | cons a actions ih =>
      refine ⟨⟨hacts.1, fun hreceived => ?_⟩,
        ih (fun a' ha' => hactions a' (List.mem_cons_of_mem a ha')) hacts.2⟩
      rw [hactions a List.mem_cons_self] at hreceived
      cases hreceived
  cases e with
  | sendResult isSuccess =>
    simp only [actions] at hacts ⊢
    split at hacts
    next hnot => rw [if_pos hnot]; exact trivial
    next hcan =>
      rw [if_neg hcan]
      rw [Bool.not_eq_true, Bool.or_eq_false_iff, Bool.not_eq_false'] at hcan
      exact ⟨⟨hacts.1, fun _ => hcan.1⟩, hnone (by simp [Action.isReceived]) hacts.2⟩
  | receive fragment =>
    simp only [actions] at hacts ⊢
    split at hacts
    next honline =>
      rw [if_pos honline]
      exact ⟨⟨hacts.1, fun _ => honline⟩, hnone (by simp [Action.isReceived]) hacts.2⟩
    next hoffline => rw [if_neg hoffline]; exact trivial
  | lowerLayerUp =>
    refine hnone ?_ hacts
    simp only [actions]
    split <;> simp [Action.isReceived]
  | confirmTimeout =>
    refine hnone ?_ hacts
    simp only [actions]
    split <;> simp [Action.isReceived]
  | updates updates =>
    refine hnone (fun a ha => ?_) hacts
    rcases List.mem_append.mp ha with hupdate | hcheck
    · obtain ⟨u, -, rfl⟩ := List.mem_map.mp hupdate
      rfl
    · rcases List.mem_cons.mp hcheck with rfl | hlast
      · rfl
      · rw [List.mem_singleton.mp hlast]
        rfl
  | _ =>
    refine hnone ?_ hacts
    simp [actions, Action.isReceived]

/-- A fragment that is received last is parsed in the state before it. -/
theorem ActsThroughout.parse {s : OContext W} {events : List (Event W)} {fragment : List UInt8}
    (h : ActsThroughout cb P s (events ++ [Event.receive fragment]))
    (honline : (run (step cb) s events).isOnline = true) :
    P (run (step cb) s events) (.parse fragment) := by
  rw [ActsThroughout, throughout_append] at h
  have hlast : Throughout (perform cb) P (run (step cb) s events)
    ((run (step cb) s events).actions (.receive fragment)) := h.2.1
  simp only [actions, honline, if_true] at hlast
  exact hlast.1

/-- A transmission that ends last ends in the state before it. -/
theorem ActsThroughout.transmitted {s : OContext W} {events : List (Event W)} {isSuccess : Bool}
    (h : ActsThroughout cb P s (events ++ [Event.sendResult isSuccess]))
    (honline : (run (step cb) s events).isOnline = true)
    (htx : (run (step cb) s events).isTransmitting = true) :
    P (run (step cb) s events) .transmitted := by
  rw [ActsThroughout, throughout_append] at h
  have hlast : Throughout (perform cb) P (run (step cb) s events)
    ((run (step cb) s events).actions (.sendResult isSuccess)) := h.2.1
  have hcan : (!(run (step cb) s events).isOnline || !(run (step cb) s events).isTransmitting) =
      false := by rw [honline, htx]; rfl
  simp only [actions, hcan, Bool.false_eq_true, if_false] at hlast
  exact hlast.1

/-- Unsolicited responses are checked for at the end of an event, if at all. -/
theorem actions_eq (s : OContext W) (e : Event W) :
    (∀ a ∈ s.actions e, a ≠ .checkForUnsolicited) ∨
      ∃ before, s.actions e = before ++ [.checkForUnsolicited] ∧
        ∀ a ∈ before, a ≠ .checkForUnsolicited := by
  cases e with
  | lowerLayerUp =>
    simp only [actions]
    split
    · exact .inl fun a ha => by cases ha
    · exact .inr ⟨[.goOnline, .checkForDeferredRequest], rfl, by simp⟩
  | sendResult isSuccess =>
    simp only [actions]
    split
    · exact .inl fun a ha => by cases ha
    · exact .inr ⟨[.transmitted], rfl, by simp⟩
  | receive fragment =>
    simp only [actions]
    split
    · exact .inr ⟨[.parse fragment, .checkForDeferredRequest], rfl, by simp⟩
    · exact .inl fun a ha => by cases ha
  | confirmTimeout =>
    simp only [actions]
    split
    · exact .inr ⟨[.expire, .checkForDeferredRequest], rfl, by simp⟩
    · exact .inl fun a ha => by cases ha
  | updates updates =>
    refine .inr ⟨updates.map Action.updatePoint ++ [Action.checkForDeferredRequest], ?_, ?_⟩
    · rw [actions, List.append_assoc, List.singleton_append]
    · intro a ha
      rcases List.mem_append.mp ha with hu | hc
      · obtain ⟨u, -, rfl⟩ := List.mem_map.mp hu
        intro h
        cases h
      · rw [List.mem_singleton.mp hc]
        intro h
        cases h
  | _ => exact .inl (by simp [actions])

end OContext
end Outstation
end Dnp3
