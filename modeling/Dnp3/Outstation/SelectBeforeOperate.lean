import Dnp3.Outstation.DeferredRequests

/-!
# Select before operate

An OPERATE is executed when it follows a SELECT: it has the sequence number after that of the
SELECT, it comes in time, and its objects have the length and the digest of those that were
selected.  The objects themselves are not kept, so others with the same digest are operated too.
Nothing takes the selection back, so an OPERATE that is sent again is executed again, unless it is
recognised as a repetition of the last request.

A SELECT is accepted when all commands that the handler was asked about succeed, and the handler is
asked about every command as long as there are no more of them than the outstation is configured to
handle.  The proof follows the two counters of the command handler through the headers of the
request (`Counts`), then the selection through the runs of the outstation (`KeepsSelections`).
-/

namespace Dnp3
namespace Outstation

open App Library Link

/-! ## The commands of a SELECT -/

namespace CommandResponseHandler

variable {W : Type} {cb : Callbacks W} {action : CommandAction} {maxCommands : UInt8}

/-- The number of commands in a header. -/
def numCommands : ObjectHeader → Nat
  | .prefixOf _ _ (.controlRelayOutputBlock values) => values.length
  | .prefixOf _ _ (.analogOutputInt16 values) => values.length
  | .prefixOf _ _ (.analogOutputInt32 values) => values.length
  | .prefixOf _ _ (.analogOutputFloat32 values) => values.length
  | .prefixOf _ _ (.analogOutputDouble64 values) => values.length
  | _ => 0

/-- The number of commands in the objects of a request. -/
def commandsIn (objects : List UInt8) : Nat :=
  ((APDUParser.parse objects true isAllowed).2.map numCommands).sum

/-- What the counters say after some commands. -/
structure Counts (maxCommands : UInt8) (n : Nat) (h : CommandResponseHandler W) : Prop where
  requests : h.numRequests = min n maxCommands.toNat
  statuses : h.statuses.length = h.numRequests
  successes : h.numSuccess = h.statuses.count .success

theorem Counts.initial (world : W) (writer : Option HeaderWriter) :
    Counts maxCommands 0 (CommandResponseHandler.initial world writer) :=
  ⟨(Nat.zero_min _).symm, rfl, rfl⟩

/-- The action changes only the surroundings. -/
theorem act_state (h : CommandResponseHandler W) (command : Command) (index : UInt16) :
    ∃ world isStarted, (act cb action h command index).1 =
      { h with world := world, isStarted := isStarted } := by
  unfold act
  split
  · unfold checkStart
    split <;> exact ⟨_, _, rfl⟩
  · unfold checkStart
    split <;> exact ⟨_, _, rfl⟩
  · exact ⟨_, _, rfl⟩

/-- The counters after one more command. -/
theorem Counts.processCommand {n : Nat} {h : CommandResponseHandler W}
    (hcounts : Counts maxCommands n h) (command : Command) (index : UInt16) :
    Counts maxCommands (n + 1)
      (if (CommandResponseHandler.processCommand cb action maxCommands h command index).2 = .success
        then
          { (CommandResponseHandler.processCommand cb action maxCommands h command index).1 with
            numSuccess := (CommandResponseHandler.processCommand cb action maxCommands h command
              index).1.numSuccess + 1 }
        else (CommandResponseHandler.processCommand cb action maxCommands h command index).1) := by
  have hrequests := hcounts.requests
  unfold CommandResponseHandler.processCommand
  split
  next hroom =>
    obtain ⟨world, isStarted, hact⟩ := @act_state W cb action
      { h with numRequests := h.numRequests + 1 } command index
    rcases hres : act cb action { h with numRequests := h.numRequests + 1 } command index with
      ⟨h', status⟩
    rw [hres] at hact
    subst hact
    dsimp only
    have hlength : (h.statuses ++ [status]).length = h.numRequests + 1 := by
      rw [List.length_append, hcounts.statuses, List.length_singleton]
    by_cases hsuccess : status = .success
    · rw [if_pos hsuccess]
      refine ⟨?_, hlength, ?_⟩
      · dsimp only
        omega
      · dsimp only
        rw [hsuccess, List.count_append, hcounts.successes, List.count_singleton_self]
    · rw [if_neg hsuccess]
      refine ⟨?_, hlength, ?_⟩
      · dsimp only
        omega
      · dsimp only
        rw [List.count_append, hcounts.successes, List.count_singleton]
        simp [hsuccess]
  next hfull =>
    rw [if_neg (fun h => by cases h)]
    refine ⟨?_, hcounts.statuses, hcounts.successes⟩
    dsimp only
    omega

variable {T : Type} {type : CommandType T}

theorem Counts.respondToItems {n : Nat} {h : CommandResponseHandler W}
    (hcounts : Counts maxCommands n h) (it : Option (PrefixedWriteIterator T × WSlice))
    (ret : IINField) (values : List (Indexed T)) :
    Counts maxCommands (n + values.length)
      (CommandResponseHandler.respondToItems cb action maxCommands type h it ret values).1 := by
  induction values generalizing n h it ret with
  | nil => exact hcounts
  | cons pair pairs ih =>
    rw [List.length_cons, ← Nat.add_assoc, Nat.add_right_comm]
    exact ih (hcounts.processCommand _ _) _ _

theorem Counts.respondToHeader {n : Nat} {h : CommandResponseHandler W}
    (hcounts : Counts maxCommands n h) (index : IndexType) (qualifier : QualifierCode)
    (values : List (Indexed T)) :
    Counts maxCommands (n + values.length)
      (CommandResponseHandler.respondToHeader cb action maxCommands type h index qualifier
        values).1 := by
  unfold CommandResponseHandler.respondToHeader
  split
  next writer hwriter =>
    have hitems := @Counts.respondToItems W cb action maxCommands T type n h hcounts
      (some ((writer.iterateOverCountWithPrefix index qualifier type.serializer).2,
        (writer.iterateOverCountWithPrefix index qualifier type.serializer).1.position)) .empty
        values
    exact ⟨hitems.requests, hitems.statuses, hitems.successes⟩
  next => exact hcounts.respondToItems _ _ values

theorem Counts.processAny {n : Nat} {h : CommandResponseHandler W}
    (hcounts : Counts maxCommands n h) (record : HeaderRecord) (values : List (Indexed T)) :
    Counts maxCommands (n + values.length)
      (CommandResponseHandler.processAny cb action maxCommands type h record values).1 := by
  unfold CommandResponseHandler.processAny
  split
  · exact hcounts.respondToHeader _ _ values
  · exact hcounts.respondToHeader _ _ values

theorem Counts.processHeader {n : Nat} {h : CommandResponseHandler W}
    (hcounts : Counts maxCommands n h) (before : Nat) (header : ObjectHeader) :
    Counts maxCommands (n + numCommands header)
      (CommandResponseHandler.processHeader cb action maxCommands before h header).1 := by
  unfold CommandResponseHandler.processHeader
  split
  · exact hcounts.processAny _ _
  · exact hcounts.processAny _ _
  · exact hcounts.processAny _ _
  · exact hcounts.processAny _ _
  · exact hcounts.processAny _ _
  · rw [show numCommands header = 0 by unfold numCommands; split <;> simp_all]
    exact hcounts

/-- The counters after all headers of a request. -/
theorem counts_onHeaders (world : W) (writer : Option HeaderWriter) (headers : List ObjectHeader) :
    Counts maxCommands (headers.map numCommands).sum
      (APDUHandler.onHeaders (CommandResponseHandler.processHeader cb action maxCommands)
        (CommandResponseHandler.initial world writer) headers).state :=
  APDUHandler.onHeaders_tracks
    (I := fun done h => Counts maxCommands (done.map numCommands).sum h)
    (fun n done h header hcounts => by
      rw [List.map_append, List.sum_append, List.map_singleton, List.sum_singleton]
      exact hcounts.processHeader n header)
    (.initial world writer) headers

/-- When as many commands succeed as were handed over, and these are all, all succeed. -/
theorem Counts.all_success {n : Nat} {h : CommandResponseHandler W}
    (hcounts : Counts maxCommands n h) (hall : h.allCommandsSuccessful = true)
    (hle : n ≤ maxCommands.toNat) : h.statuses = List.replicate n .success := by
  rw [allCommandsSuccessful, beq_iff_eq] at hall
  rw [List.eq_replicate_iff]
  constructor
  · rw [hcounts.statuses, hcounts.requests, Nat.min_eq_left hle]
  · intro status hstatus
    have hcount : h.statuses.count .success = h.statuses.length := by
      rw [← hcounts.successes, ← hall, hcounts.statuses]
    exact (List.count_eq_length.mp hcount status hstatus).symm

end CommandResponseHandler

/-! ## Selections -/

/-- A SELECT that was accepted, with what the handler said to its commands. -/
structure SelectedControls where
  seq : AppSeqNum
  time : Int
  objects : List UInt8
  statuses : List CommandStatus
  deriving DecidableEq, Repr

namespace SelectedControls

/-- The last SELECT, after one more effect. -/
def after (last : Option SelectedControls) : Effect → Option SelectedControls
  | .selected seq time objects statuses => some ⟨seq, time, objects, statuses⟩
  | _ => last

/-- What the outstation keeps of a SELECT. -/
def control (p : SelectedControls) : ControlState where
  expectedSeq := p.seq + 1
  selectTime := p.time
  digest := CRC.calcCrc p.objects
  length := p.objects.length

/-- All commands of a SELECT that has no more of them than the outstation handles succeeded. -/
def AllSucceeded (p : SelectedControls) (maxCommands : UInt8) : Prop :=
  CommandResponseHandler.commandsIn p.objects ≤ maxCommands.toNat →
    p.statuses = List.replicate (CommandResponseHandler.commandsIn p.objects) .success

/-- The SELECT fits an OPERATE: its number precedes, it is not too old, and the objects have the
same length and digest. -/
structure Authorises (p : SelectedControls) (timeout : Int) (seq : AppSeqNum) (time : Int)
    (objects : List UInt8) : Prop where
  seq : seq = p.seq + 1
  order : p.time ≤ time
  inTime : time - p.time < timeout
  length : p.objects.length = objects.length
  digest : CRC.calcCrc p.objects = CRC.calcCrc objects

/-- A validated selection authorises. -/
theorem authorises_of_valid {p : SelectedControls} {timeout time : Int} {seq : AppSeqNum}
    {objects : List UInt8}
    (h : p.control.validateSelection seq time timeout objects = .success) :
    p.Authorises timeout seq time objects := by
  unfold ControlState.validateSelection control at h
  dsimp only at h
  split at h
  next hseq =>
    split at h
    next horder =>
      split at h
      next htime =>
        split at h
        next hsame => exact ⟨hseq.symm, horder, htime, hsame.1, hsame.2⟩
        · cases h
      · cases h
    · cases h
  · cases h

end SelectedControls

/-- Nothing is selected at first. -/
theorem ControlState.not_valid_initial (seq : AppSeqNum) (time timeout : Int)
    (objects : List UInt8) :
    ControlState.initial.validateSelection seq time timeout objects ≠ .success := by
  intro h
  unfold validateSelection initial at h
  dsimp only at h
  split at h
  · split at h
    · split at h
      · split at h
        next hsame =>
          rw [List.length_eq_zero_iff.mp hsame.1.symm] at hsame
          exact absurd hsame.2 (by decide)
        · cases h
      · cases h
    · cases h
  · cases h

/-- The last SELECT that was accepted. -/
def lastSelection (log : List Effect) : Option SelectedControls :=
  log.foldl SelectedControls.after none

theorem lastSelection_note (log : List Effect) (e : Effect) :
    lastSelection (log ++ [e]) = SelectedControls.after (lastSelection log) e := by
  rw [lastSelection, List.foldl_append]
  rfl

/-- A SELECT is accepted, or an OPERATE is executed. -/
def Effect.isCommand : Effect → Bool
  | .selected .. => true
  | .operated .. => true
  | _ => false

theorem lastSelection_append {log effects : List Effect}
    (h : ∀ e ∈ effects, Effect.isCommand e = false) :
    lastSelection (log ++ effects) = lastSelection log := by
  induction effects generalizing log with
  | nil => rw [List.append_nil]
  | cons e effects ih =>
    rw [List.append_cons, ih fun e' he' => h e' (List.mem_cons_of_mem e he'), lastSelection_note]
    have he := h e List.mem_cons_self
    cases e with
    | selected => cases he
    | _ => rfl

/-- Every OPERATE that was executed was authorised by the SELECT before it. -/
def AllAuthorised (timeout : Int) (maxCommands : UInt8) (log : List Effect) : Prop :=
  ∀ i seq time objects, log[i]? = some (.operated seq time objects) →
    ∃ p, lastSelection (log.take i) = some p ∧ p.AllSucceeded maxCommands ∧
      p.Authorises timeout seq time objects

namespace AllAuthorised

variable {timeout : Int} {maxCommands : UInt8} {log : List Effect}

/-- The effects before stay the same. -/
theorem append (h : AllAuthorised timeout maxCommands log) {effects : List Effect}
    (heffects : ∀ i seq time objects, effects[i]? = some (.operated seq time objects) →
      ∃ p, lastSelection (log ++ effects.take i) = some p ∧ p.AllSucceeded maxCommands ∧
        p.Authorises timeout seq time objects) :
    AllAuthorised timeout maxCommands (log ++ effects) := by
  intro i seq time objects hi
  rcases Nat.lt_or_ge i log.length with hlt | hge
  · rw [List.getElem?_append_left hlt] at hi
    rw [List.take_append_of_le_length (Nat.le_of_lt hlt)]
    exact h i seq time objects hi
  · rw [List.getElem?_append_right hge] at hi
    rw [List.take_append, List.take_of_length_le hge]
    exact heffects _ seq time objects hi

theorem append_quiet (h : AllAuthorised timeout maxCommands log) {effects : List Effect}
    (heffects : ∀ e ∈ effects, Effect.isCommand e = false) :
    AllAuthorised timeout maxCommands (log ++ effects) := by
  refine h.append fun i seq time objects hi => ?_
  have hquiet := heffects _ (List.mem_of_getElem? hi)
  cases hquiet

end AllAuthorised

namespace OContext

variable {W : Type} {cb : Callbacks W}

/-! ## What requests select and operate -/

/-- What the handler of a request does about selections. -/
inductive ChangesControl (s s' : OContext W) : Prop where
  | quiet (effects : List Effect) (heffects : ∀ e ∈ effects, Effect.isCommand e = false)
      (hlog : s'.log = s.log ++ effects) (hcontrol : s'.control = s.control) : ChangesControl s s'
  | selected (p : SelectedControls) (hall : p.AllSucceeded s.params.maxControlsPerRequest)
      (hlog : s'.log = s.log ++ [.selected p.seq p.time p.objects p.statuses])
      (hcontrol : s'.control = p.control) : ChangesControl s s'
  | operated (objects : List UInt8)
      (hvalid : s.control.validateSelection s.sol.seq.num s.now s.params.selectTimeout objects =
        .success)
      (hlog : s'.log = s.log ++ [.operated s.sol.seq.num s.now objects])
      (hcontrol : s'.control = s.control) : ChangesControl s s'

namespace ChangesControl

theorem of_eq {s s' : OContext W} (hlog : s'.log = s.log) (hcontrol : s'.control = s.control) :
    ChangesControl s s' :=
  .quiet [] (fun e he => by cases he) (by rw [List.append_nil, hlog]) hcontrol

theorem handleSelect (s : OContext W) (objects : List UInt8) (writer : HeaderWriter) :
    ChangesControl s (s.handleSelect cb objects writer).1 := by
  unfold OContext.handleSelect
  split
  · exact .of_eq rfl rfl
  · dsimp only
    split
    next hall =>
      have hcounts : CommandResponseHandler.Counts s.params.maxControlsPerRequest _
          (s.processCommands cb .select objects (some writer)).2.state :=
        CommandResponseHandler.counts_onHeaders s.world (some writer) _
      exact .selected ⟨s.sol.seq.num, s.now, objects, _⟩ (hcounts.all_success hall.2 ·) rfl rfl
    · exact .of_eq rfl rfl

theorem handleOperate (s : OContext W) (objects : List UInt8) (writer : HeaderWriter) :
    ChangesControl s (s.handleOperate cb objects writer).1 := by
  unfold OContext.handleOperate
  split
  · exact .of_eq rfl rfl
  · dsimp only
    split
    next hvalid => exact .operated objects hvalid rfl rfl
    · exact .of_eq rfl rfl

theorem handleDirectOperate (s : OContext W) (objects : List UInt8)
    (writer : Option HeaderWriter) :
    ChangesControl s (s.handleDirectOperate cb objects writer).1 := by
  unfold OContext.handleDirectOperate
  split <;> exact .of_eq rfl rfl

theorem handleRestart (s : OContext W) (objects : List UInt8) (isWarmRestart : Bool)
    (writer : HeaderWriter) :
    ChangesControl s (s.handleRestart cb objects isWarmRestart writer).1 := by
  unfold OContext.handleRestart
  split
  · dsimp only
    split <;> exact .of_eq rfl rfl
  · exact .of_eq rfl rfl

theorem handleAssignClass (s : OContext W) (objects : List UInt8) :
    ChangesControl s (s.handleAssignClass cb objects).1 := by
  unfold OContext.handleAssignClass
  split
  · refine .quiet _ ?_ rfl rfl
    intro e he
    obtain ⟨assignment, -, rfl⟩ := List.mem_map.mp he
    rfl
  · exact .of_eq rfl rfl

theorem handleNonReadResponse (s : OContext W) (header : APDUHeader) (objects : List UInt8)
    (writer : HeaderWriter) :
    ChangesControl s (s.handleNonReadResponse cb header objects writer).1 := by
  unfold OContext.handleNonReadResponse
  split
  · exact .of_eq rfl rfl
  · exact handleSelect s objects writer
  · exact handleOperate s objects writer
  · exact handleDirectOperate s objects (some writer)
  · exact handleRestart s objects false writer
  · exact handleRestart s objects true writer
  · exact handleAssignClass s objects
  · exact .of_eq rfl rfl
  · split
    · unfold handleDisableUnsolicited
      dsimp only
      split <;> exact .of_eq rfl rfl
    · exact .of_eq rfl rfl
  · split
    · unfold handleEnableUnsolicited
      dsimp only
      split <;> exact .of_eq rfl rfl
    · exact .of_eq rfl rfl
  · exact .of_eq rfl rfl

end ChangesControl

/-! ## Every OPERATE is authorised -/

/-- The control state is what is kept of the last SELECT, and every OPERATE so far was
authorised. -/
structure KeepsSelections (timeout : Int) (maxCommands : UInt8) (s : OContext W) : Prop where
  params : s.params.selectTimeout = timeout ∧ s.params.maxControlsPerRequest = maxCommands
  control : match lastSelection s.log with
    | none => s.control = .initial
    | some p => s.control = p.control ∧ p.AllSucceeded maxCommands
  authorised : AllAuthorised timeout maxCommands s.log

namespace KeepsSelections

variable {timeout : Int} {maxCommands : UInt8} {s s' : OContext W}

theorem initial (world : W) (now : Int) (events : EventBufferConfig) (database : DatabaseBuffers)
    (params : OutstationParams) :
    KeepsSelections params.selectTimeout params.maxControlsPerRequest
      (OContext.initial world now events database params) := by
  refine ⟨⟨rfl, rfl⟩, rfl, ?_⟩
  intro i seq time objects hi
  rw [OContext.initial, List.getElem?_nil] at hi
  cases hi

/-- Nothing is selected or operated. -/
theorem quiet (h : KeepsSelections timeout maxCommands s) {effects : List Effect}
    (heffects : ∀ e ∈ effects, Effect.isCommand e = false) (hparams : KeepsParams s s')
    (hlog : s'.log = s.log ++ effects) (hcontrol : s'.control = s.control) :
    KeepsSelections timeout maxCommands s' := by
  constructor
  · obtain ⟨mask, hparams⟩ := hparams
    rw [hparams]
    exact h.params
  · rw [hlog, lastSelection_append heffects, hcontrol]
    exact h.control
  · rw [hlog]
    exact h.authorised.append_quiet heffects

/-- Nothing happens that is remembered. -/
theorem congr (h : KeepsSelections timeout maxCommands s) (hparams : KeepsParams s s')
    (hlog : s'.log = s.log) (hcontrol : s'.control = s.control) :
    KeepsSelections timeout maxCommands s' :=
  h.quiet (fun e (he : e ∈ []) => by cases he) hparams (by rw [hlog, List.append_nil]) hcontrol

theorem note (h : KeepsSelections timeout maxCommands s) {e : Effect} (he : e.isCommand = false)
    (hparams : KeepsParams s s') (hlog : s'.log = s.log ++ [e])
    (hcontrol : s'.control = s.control) :
    KeepsSelections timeout maxCommands s' :=
  h.quiet (fun e' he' => by rw [List.mem_singleton.mp he']; exact he) hparams hlog hcontrol

/-- A SELECT replaces the one before, and an OPERATE is authorised by the last SELECT. -/
theorem changesControl (h : KeepsSelections timeout maxCommands s) (hparams : KeepsParams s s')
    (hs : ChangesControl s s') : KeepsSelections timeout maxCommands s' := by
  cases hs with
  | quiet effects heffects hlog hcontrol => exact h.quiet heffects hparams hlog hcontrol
  | selected p hall hlog hcontrol =>
    rw [h.params.2] at hall
    have hlast : lastSelection s'.log = some p := by rw [hlog, lastSelection_note]; rfl
    constructor
    · obtain ⟨mask, hparams⟩ := hparams
      rw [hparams]
      exact h.params
    · rw [hlast]
      exact ⟨hcontrol, hall⟩
    · rw [hlog]
      refine h.authorised.append fun i seq time objects hi => ?_
      rw [List.getElem?_singleton] at hi
      split at hi <;> cases hi
  | operated objects hvalid hlog hcontrol =>
    have hlast : lastSelection s'.log = lastSelection s.log := by
      rw [hlog, lastSelection_note]
      rfl
    constructor
    · obtain ⟨mask, hparams⟩ := hparams
      rw [hparams]
      exact h.params
    · rw [hlast, hcontrol]
      exact h.control
    · rw [hlog]
      refine h.authorised.append fun i seq time objects' hi => ?_
      rw [List.getElem?_singleton] at hi
      split at hi
      next hzero =>
        cases hi
        have hkept := h.control
        rw [hzero, List.take_zero, List.append_nil]
        cases hselected : lastSelection s.log with
        | none =>
          rw [hselected] at hkept
          rw [hkept] at hvalid
          exact absurd hvalid (ControlState.not_valid_initial _ _ _ _)
        | some p =>
          rw [hselected] at hkept
          rw [hkept.1, h.params.1] at hvalid
          exact ⟨p, rfl, hkept.2, SelectedControls.authorises_of_valid hvalid⟩
      · cases hi

theorem takesRequest {header : APDUHeader} {objects : List UInt8}
    (h : KeepsSelections timeout maxCommands s) (ht : TakesRequest cb s header objects s') :
    KeepsSelections timeout maxCommands s' := by
  have hparams := KeepsParams.takesRequest ht
  cases ht with
  | unsolicited huns => exact h
  | repeatedRead huns hrepeat hread => exact h
  | repeated huns hrepeat hread hsol => exact h.note rfl hparams rfl rfl
  | repeatedWaiting huns hrepeat hread hsol => exact h.congr hparams rfl rfl
  | abandons huns hnew hsol => exact h.note rfl hparams rfl rfl
  | defersRead huns hnew hread hsol hunsol => exact h.congr hparams rfl rfl
  | read huns hnew hread hsol hunsol =>
    obtain ⟨r, -, -, -, heq⟩ := @respondToReadRequest_state W cb (s.withSeq header) header objects
    rw [heq] at hparams ⊢
    exact h.note rfl hparams rfl rfl
  | nonRead huns hnew hread hsol =>
    have hrecorded : KeepsSelections timeout maxCommands
        ((s.withSeq header).recorded header objects) := h.congr (.of_eq rfl) rfl rfl
    obtain ⟨writer, tx, heq⟩ :=
      @respondToNonReadRequest_handled W cb (s.withSeq header) header objects
    have hhandled : KeepsSelections timeout maxCommands
        (((s.withSeq header).recorded header objects).handleNonReadResponse cb header objects
          writer).1 := by
      refine hrecorded.changesControl ?_ (ChangesControl.handleNonReadResponse _ header objects _)
      obtain ⟨world, staticIIN, control, database, mask, effects, heq, -, -, -⟩ :=
        @handled_handleNonReadResponse W cb ((s.withSeq header).recorded header objects) header
          objects writer
      rw [heq]
      exact ⟨mask, rfl⟩
    rw [heq]
    exact hhandled.note rfl (.of_eq rfl) rfl rfl

theorem takesConfirm {header : APDUHeader} (h : KeepsSelections timeout maxCommands s)
    (ht : TakesConfirm cb s header s') : KeepsSelections timeout maxCommands s' := by
  have hparams := KeepsParams.takesConfirm ht
  cases ht with
  | ignoredSol huns hsol => exact h
  | ignoredUnsol huns hunsol => exact h
  | last huns hsol hseq hselection => exact h.note rfl hparams rfl rfl
  | more huns hsol hseq hselection =>
    obtain ⟨r, -, -, -, heq⟩ := @continueMultiFragResponse_state W cb
      (s.takeConfirm header.control) (header.control.SEQ + 1)
    rw [heq] at hparams ⊢
    have htaken : KeepsSelections timeout maxCommands (s.takeConfirm header.control) :=
      h.note rfl (.of_eq rfl) rfl rfl
    exact htaken.note rfl (.of_eq rfl) rfl rfl
  | null huns hunsol hseq hnull => exact h.congr hparams rfl rfl
  | events huns hunsol hseq hnull => exact h.note rfl hparams rfl rfl

theorem takesFragment (h : KeepsSelections timeout maxCommands s) (ht : TakesFragment cb s s') :
    KeepsSelections timeout maxCommands s' := by
  cases ht with
  | ignored => exact h
  | noAck world => exact h.congr (.of_eq rfl) rfl rfl
  | deferred header objects htx =>
    unfold noteConfirm
    split
    · exact h.note rfl (.of_eq rfl) rfl rfl
    · exact h.congr (.of_eq rfl) rfl rfl
  | confirm header htx hfunction hc =>
    have hnoted : KeepsSelections timeout maxCommands (s.note (.confirmReceived header.control)) :=
      h.note rfl (.of_eq rfl) rfl rfl
    exact hnoted.takesConfirm hc
  | request header objects htx hfunction hr => exact h.takesRequest hr

theorem takesDeferred (h : KeepsSelections timeout maxCommands s) (ht : TakesDeferred cb s s') :
    KeepsSelections timeout maxCommands s' := by
  cases ht with
  | nothing _ => exact h
  | waits hset hread hunsol => exact h
  | confirm hcan hset hfunction hc => exact (h.takesConfirm hc).congr (.of_eq rfl) rfl rfl
  | request hcan hset hfunction hread hr => exact (h.takesRequest hr).congr (.of_eq rfl) rfl rfl

theorem sendsUnsolicited (h : KeepsSelections timeout maxCommands s)
    (hs : SendsUnsolicited cb s s') : KeepsSelections timeout maxCommands s' := by
  have hparams := KeepsParams.sendsUnsolicited hs
  cases hs with
  | nothing hnot => exact h
  | null tx hcan hnull =>
    unfold sendUnsolFrom startUnsolicitedConfirmTimer at hparams ⊢
    rw [startConfirmTimer_eq] at hparams ⊢
    exact h.note rfl hparams rfl rfl
  | events writer tx hcan hnull hevents =>
    unfold sendUnsolFrom startUnsolicitedConfirmTimer at hparams ⊢
    rw [startConfirmTimer_eq] at hparams ⊢
    exact h.note rfl hparams rfl rfl

/-- Every action keeps it. -/
theorem perform (h : KeepsSelections timeout maxCommands s) (a : Action W) :
    KeepsSelections timeout maxCommands (s.perform cb a) := by
  have hparams := @KeepsParams.perform W cb s a
  cases a with
  | goOnline => exact h.congr hparams rfl rfl
  | goOffline =>
    simp only [OContext.perform, onLowerLayerDown] at hparams ⊢
    split
    · exact h.note rfl (.of_eq rfl) rfl rfl
    · exact h
  | transmitted =>
    have htransmitted : KeepsSelections timeout maxCommands { s with isTransmitting := false } :=
      h.congr (.of_eq rfl) rfl rfl
    exact htransmitted.takesDeferred (OContext.takesDeferred _)
  | parse fragment => exact h.takesFragment (s.takesFragment fragment)
  | expire =>
    have hexpires := s.expires
    simp only [OContext.perform] at hparams ⊢
    generalize s.expireTimer = s' at hexpires hparams ⊢
    cases hexpires with
    | inactive htimer => exact h
    | solicited t htimer hsol => exact h.note rfl hparams rfl rfl
    | unsolicited t htimer hunsol => exact h.congr hparams rfl rfl
    | unexpected timer htimer hsol hunsol => exact h.congr hparams rfl rfl
  | updatePoint u =>
    simp only [OContext.perform, updatePoint] at hparams ⊢
    split
    · refine h.quiet ?_ (.of_eq rfl) rfl rfl
      intro e he
      obtain ⟨id, -, rfl⟩ := List.mem_map.mp he
      rfl
    · exact h.congr (.of_eq rfl) rfl rfl
  | checkForDeferredRequest => exact h.takesDeferred s.takesDeferred
  | checkForUnsolicited => exact h.sendsUnsolicited s.sendsUnsolicited
  | setRestartIIN => exact h.congr hparams rfl rfl
  | elapse milliseconds => exact h.congr hparams rfl rfl
  | surroundings world => exact h.congr hparams rfl rfl

theorem reached {s₀ : OContext W} (h₀ : KeepsSelections timeout maxCommands s₀)
    (h : Reached cb s₀ s) : KeepsSelections timeout maxCommands s :=
  h.keeps (fun _ a hs => hs.perform a) (fun _ hs => hs.congr (.of_eq rfl) rfl rfl) h₀

end KeepsSelections

/-! ## Select before operate -/

theorem handleOperate_asks (s : OContext W) (objects : List UInt8) (writer : HeaderWriter) :
    (s.handleOperate cb objects writer).1.world = s.world ∨
      (s.handleOperate cb objects writer).1.log =
        s.log ++ [Effect.operated s.sol.seq.num s.now objects] := by
  unfold handleOperate
  split
  · exact .inl rfl
  · dsimp only
    split
    · exact .inr rfl
    · exact .inl rfl

/-- The user code is asked about the commands of an OPERATE only when this is remembered. -/
theorem processRequest_asks (s : OContext W) {header : APDUHeader} (objects : List UInt8)
    (hoperate : header.function = .operate) :
    (s.processRequest cb header objects).world = s.world ∨
      ∃ fragment, (s.processRequest cb header objects).log =
        s.log ++ [Effect.operated header.control.SEQ s.now objects] ++
          [Effect.responded header objects fragment] := by
  have htaken := @takesRequest W cb s header objects
  generalize s.processRequest cb header objects = s' at htaken ⊢
  cases htaken with
  | read huns hnew hread hsol hunsol =>
    rw [hoperate] at hread
    cases hread
  | nonRead huns hnew hread hsol =>
    obtain ⟨writer, tx, heq⟩ :=
      @respondToNonReadRequest_handled W cb (s.withSeq header) header objects
    have hhandled : (((s.withSeq header).recorded header objects).handleNonReadResponse cb header
        objects writer).1 =
        (((s.withSeq header).recorded header objects).handleOperate cb objects writer).1 := by
      unfold handleNonReadResponse
      rw [hoperate]
    rw [heq, hhandled]
    rcases @handleOperate_asks W cb ((s.withSeq header).recorded header objects) objects writer with
      hworld | hlog
    · exact .inl hworld
    · exact .inr ⟨_, congrArg (· ++ _) hlog⟩
  | _ => exact .inl rfl

/-- Every OPERATE that was executed follows a SELECT that authorises it and whose commands
succeeded, if it had no more than the outstation handles; the user code is asked about the commands
of an OPERATE only when it is executed, and it is not executed when it looks like the last
request. -/
theorem select_before_operate (world : W) (now : Int) (config : EventBufferConfig)
    (database : DatabaseBuffers) (params : OutstationParams) {s : OContext W}
    (hs : Reached cb (initial world now config database params) s) :
    AllAuthorised params.selectTimeout params.maxControlsPerRequest s.log ∧
    ∀ header objects, header.function = .operate →
      ((s.processRequest cb header objects).world = s.world ∨
        ∃ fragment, (s.processRequest cb header objects).log =
          s.log ++ [.operated header.control.SEQ s.now objects] ++
            [.responded header objects fragment]) ∧
      ∀ p, lastProcessed s.log = some p → s.LooksRepeated p header objects →
        (s.processRequest cb header objects).world = s.world := by
  have hselections := (KeepsSelections.initial world now config database params).reached hs
  have hremembers := (Remembers.initial world now config database params).reached hs
  refine ⟨hselections.authorised, fun header objects hoperate => ⟨?_, ?_⟩⟩
  · exact s.processRequest_asks objects hoperate
  · intro p hp hlooks
    have hrepeat := (hremembers.isRepeat_iff header objects).mpr ⟨p, hp, hlooks⟩
    have htaken := @takesRequest W cb s header objects
    generalize s.processRequest cb header objects = s' at htaken ⊢
    cases htaken with
    | read _ hnew _ _ _ =>
      rw [hrepeat] at hnew
      cases hnew
    | nonRead _ hnew _ _ =>
      rw [hrepeat] at hnew
      cases hnew
    | _ => rfl

/-! ## What is not excluded -/

/-- A pulse is selected. -/
def selecting : List (Event Nat) :=
  [.lowerLayerUp, .sendResult true, .receive ([0xC3, 0x03] ++ pulse [100, 0, 0, 0]),
    .sendResult true]

/-- The selected pulse is operated. -/
def operating : List (Event Nat) :=
  selecting ++ [.receive ([0xC4, 0x04] ++ pulse [100, 0, 0, 0]), .sendResult true]

theorem select_before_operate_pulse :
    ∃ p, lastSelection ((after operating).log.take 3) = some p ∧ p.AllSucceeded 16 ∧
      p.Authorises 10000 4 0 (pulse [100, 0, 0, 0]) := by
  have hauthorised := @select_before_operate Nat countingCallbacks 0 0 (.allTypes 4)
    (.ofType .counter 2) smallParams _ (reached_run small operating)
  exact hauthorised.1 3 4 0 (pulse [100, 0, 0, 0]) (by decide +kernel)

/-- The number of times an OPERATE was executed since the last SELECT. -/
def operationsSince (log : List Effect) : Nat :=
  log.foldl (fun n e => match e with
    | .selected .. => 0
    | .operated .. => n + 1
    | _ => n) 0

/-- Other objects than those selected may be operated, and an OPERATE may be executed twice under
one SELECT. -/
theorem not_select_before_operate :
    (¬ ∀ s, Reached countingCallbacks small s → ∀ i seq time objects,
      s.log[i]? = some (.operated seq time objects) →
        ∃ p, lastSelection (s.log.take i) = some p ∧ p.objects = objects) ∧
    ¬ ∀ s, Reached countingCallbacks small s → operationsSince s.log ≤ 1 := by
  refine ⟨?_, ?_⟩
  · intro h
    let events := selecting ++ [Event.receive ([0xC4, 0x04] ++ pulse [29, 77, 1, 0])]
    have hlog : (after events).log[3]? = some (.operated 4 0 (pulse [29, 77, 1, 0])) := by
      decide +kernel
    have hlast : lastSelection ((after events).log.take 3) =
        some ⟨3, 0, pulse [100, 0, 0, 0], [.success]⟩ := by decide +kernel
    obtain ⟨p, hp, hsame⟩ := h (after events) (reached_run small events) 3 4 0 _ hlog
    rw [hlast] at hp
    cases hp
    exact absurd hsame (by decide)
  · intro h
    let events := operating ++ [Event.receive [0xC5, 0x17], .sendResult true,
      .receive ([0xC4, 0x04] ++ pulse [100, 0, 0, 0])]
    have hone := h (after events) (reached_run small events)
    have htwo : operationsSince (after events).log = 2 := by decide +kernel
    omega

end OContext
end Outstation
end Dnp3
