import Dnp3.Outstation.CommandEcho

/-!
# What arms an operation

A SELECT arms an operation when the number of commands that were handed over is the number of those
that succeeded.  Commands beyond the limit are not handed over: they are told that there are too
many of them, and neither number knows about them.  So the decision is about the commands up to the
limit, and a request with more of them arms an operation although some of them were refused.

`HandedOver` is the invariant of the handler over the headers of a request: it has handed over the
commands up to the limit, in order, and knows their answers.  From it `arms_iff` reads off when a
SELECT arms an operation, and `arms_iff_allSucceed` compares that with the success of all commands
of the request.
-/

namespace Dnp3
namespace Outstation

open App Library

namespace CommandAction

variable {W : Type} (cb : Callbacks W) (action : CommandAction)

/-- The answers to commands that are all handed over. -/
def answers : W → List (Indexed Command) → List CommandStatus
  | _, [] => []
  | world, c :: commands =>
    (answer cb action world c).2 :: answers (answer cb action world c).1 commands

variable {cb action}

@[simp] theorem length_answers (world : W) (commands : List (Indexed Command)) :
    (answers cb action world commands).length = commands.length := by
  induction commands generalizing world with
  | nil => rfl
  | cons c commands ih => exact congrArg (· + 1) (ih _)

theorem answers_append (world : W) (commands commands' : List (Indexed Command)) :
    answers cb action world (commands ++ commands') = answers cb action world commands ++
      answers cb action (commands.foldl (fun world c => (answer cb action world c).1) world)
        commands' := by
  induction commands generalizing world with
  | nil => rfl
  | cons c commands ih =>
    rw [List.cons_append, answers, ih, answers, List.cons_append, List.foldl_cons]

/-- Commands up to the limit are answered, and there are too many of the others. -/
theorem given_eq (room : Nat) (world : W) (commands : List (Indexed Command)) :
    given cb action room world commands = answers cb action world (commands.take room) ++
      List.replicate (commands.length - room) .tooManyOps := by
  induction commands generalizing room world with
  | nil =>
    rw [List.take_nil, List.length_nil, Nat.zero_sub, List.replicate_zero, List.append_nil]
    cases room <;> rfl
  | cons c commands ih =>
    cases room with
    | zero =>
      rw [given, ih, List.take_zero, List.take_zero, Nat.sub_zero, Nat.sub_zero, List.length_cons,
        List.replicate_succ]
      rfl
    | succ room =>
      rw [given, ih, List.take_succ_cons, answers, List.cons_append, List.length_cons,
        Nat.add_sub_add_right]

theorem served_append (room : Nat) (world : W) (commands commands' : List (Indexed Command)) :
    served cb action room world (commands ++ commands') =
      served cb action (room - commands.length) (served cb action room world commands)
        commands' := by
  rw [served, List.take_append, List.foldl_append]
  rfl

end CommandAction

namespace CommandResponseHandler

variable {W : Type} {cb : Callbacks W} {action : CommandAction} {maxCommands : UInt8}

/-- The handler has handed over the commands up to the limit, and knows their answers. -/
structure HandedOver (cb : Callbacks W) (action : CommandAction) (maxCommands : UInt8) (world : W)
    (commands : List (Indexed Command)) (h : CommandResponseHandler W) : Prop where
  serving : Serving cb maxCommands (maxCommands.toNat - commands.length)
    (action.served cb maxCommands.toNat (cb.start world) commands) h
  statuses : h.statuses =
    action.answers cb (cb.start world) (commands.take maxCommands.toNat)

variable {world : W} {commands : List (Indexed Command)} {h : CommandResponseHandler W}

theorem handedOver_initial (world : W) (writer : Option HeaderWriter) :
    HandedOver cb action maxCommands world [] (.initial world writer) := by
  refine ⟨?_, ?_⟩
  · rw [CommandAction.served_nil]
    exact serving_initial world writer
  · rw [List.take_nil]
    rfl

/-- What the handler writes and counts does not matter. -/
theorem HandedOver.congr (hhanded : HandedOver cb action maxCommands world commands h)
    {h' : CommandResponseHandler W} (hworld : h'.world = h.world)
    (hstarted : h'.isStarted = h.isStarted) (hrequests : h'.numRequests = h.numRequests)
    (hstatuses : h'.statuses = h.statuses) :
    HandedOver cb action maxCommands world commands h' := by
  refine ⟨⟨?_, ?_⟩, hstatuses.trans hhanded.statuses⟩
  · rw [hrequests]
    exact hhanded.serving.room
  · rw [← hhanded.serving.world, checkStart, checkStart, hstarted]
    split
    · exact hworld
    · exact congrArg cb.start hworld

theorem HandedOver.processCommand (hhanded : HandedOver cb action maxCommands world commands h)
    (c : Indexed Command) :
    HandedOver cb action maxCommands world (commands ++ [c])
      (CommandResponseHandler.processCommand cb action maxCommands h c.value c.index).1 := by
  obtain ⟨world', hnext, hserved⟩ := hhanded.serving.processCommand action c
  have hworld := (hserved []).2
  rw [CommandAction.served_nil] at hworld
  refine ⟨?_, ?_⟩
  · rw [CommandAction.served_append, hworld, List.length_append, List.length_singleton,
      ← Nat.sub_sub]
    exact hnext
  · have hroom := hhanded.serving.room
    have hstatuses := hhanded.statuses
    unfold CommandResponseHandler.processCommand
    split
    next hlt =>
      have hall : (commands ++ [c]).take maxCommands.toNat = commands ++ [c] := by
        refine List.take_of_length_le ?_
        rw [List.length_append, List.length_singleton]
        omega
      have hbefore : commands.take maxCommands.toNat = commands :=
        List.take_of_length_le (by omega)
      have hcounted : ({ h with numRequests := h.numRequests + 1 }.checkStart cb).world =
          commands.foldl (fun world c => (action.answer cb world c).1) (cb.start world) := by
        have hworld := hhanded.serving.world
        rw [CommandAction.served, hbefore] at hworld
        rw [← hworld]
        unfold checkStart
        dsimp only
        split <;> rfl
      obtain ⟨hstatus, -, -⟩ := @act_eq W cb action { h with numRequests := h.numRequests + 1 } c
      obtain ⟨world', isStarted, hact⟩ := @act_state W cb action
        { h with numRequests := h.numRequests + 1 } c.value c.index
      rw [hcounted] at hstatus
      rw [hall, CommandAction.answers_append, ← hbefore, ← hstatuses, hbefore]
      show (act cb action { h with numRequests := h.numRequests + 1 } c.value c.index).1.statuses ++
        [(act cb action { h with numRequests := h.numRequests + 1 } c.value c.index).2] = _
      rw [hact, hstatus]
      rfl
    next hge =>
      have hfull : maxCommands.toNat ≤ commands.length := by omega
      rw [List.take_append_of_le_length hfull]
      exact hstatuses

variable {T : Type} {type : CommandType T}

theorem HandedOver.respondToItems (hhanded : HandedOver cb action maxCommands world commands h)
    (it : Option (PrefixedWriteIterator T × WSlice)) (ret : IINField)
    (values : List (Indexed T)) :
    HandedOver cb action maxCommands world
      (commands ++ values.map fun v => ⟨type.command v.value, v.index⟩)
      (CommandResponseHandler.respondToItems cb action maxCommands type h it ret values).1 := by
  induction values generalizing commands h it ret with
  | nil =>
    rw [List.map_nil, List.append_nil]
    exact hhanded
  | cons v values ih =>
    have hnext := hhanded.processCommand ⟨type.command v.value, v.index⟩
    have hcounted : HandedOver cb action maxCommands world
        (commands ++ [⟨type.command v.value, v.index⟩])
        (if (CommandResponseHandler.processCommand cb action maxCommands h (type.command v.value)
            v.index).2 = .success then
          { (CommandResponseHandler.processCommand cb action maxCommands h (type.command v.value)
              v.index).1 with
            numSuccess := (CommandResponseHandler.processCommand cb action maxCommands h
              (type.command v.value) v.index).1.numSuccess + 1 }
        else (CommandResponseHandler.processCommand cb action maxCommands h (type.command v.value)
          v.index).1) := by
      split
      · exact hnext.congr rfl rfl rfl rfl
      · exact hnext
    rw [List.map_cons, List.append_cons]
    exact ih hcounted _ _

theorem HandedOver.processAny (hhanded : HandedOver cb action maxCommands world commands h)
    (record : HeaderRecord) (values : List (Indexed T)) :
    HandedOver cb action maxCommands world
      (commands ++ values.map fun v => ⟨type.command v.value, v.index⟩)
      (CommandResponseHandler.processAny cb action maxCommands type h record values).1 := by
  have hheader : ∀ index qualifier, HandedOver cb action maxCommands world
      (commands ++ values.map fun v => ⟨type.command v.value, v.index⟩)
      (CommandResponseHandler.respondToHeader cb action maxCommands type h index qualifier
        values).1 := by
    intro index qualifier
    unfold CommandResponseHandler.respondToHeader
    split
    · exact (hhanded.respondToItems _ _ values).congr rfl rfl rfl rfl
    · exact hhanded.respondToItems _ _ values
  unfold CommandResponseHandler.processAny
  split
  · exact hheader _ _
  · exact hheader _ _

theorem HandedOver.processHeader (hhanded : HandedOver cb action maxCommands world commands h)
    (n : Nat) (header : ObjectHeader) :
    HandedOver cb action maxCommands world (commands ++ commandsOf header)
      (CommandResponseHandler.processHeader cb action maxCommands n h header).1 := by
  unfold CommandResponseHandler.processHeader
  split
  · exact @HandedOver.processAny W _ _ _ _ _ h _ .controlRelayOutputBlock hhanded _ _
  · exact @HandedOver.processAny W _ _ _ _ _ h _ .analogOutputInt16 hhanded _ _
  · exact @HandedOver.processAny W _ _ _ _ _ h _ .analogOutputInt32 hhanded _ _
  · exact @HandedOver.processAny W _ _ _ _ _ h _ .analogOutputFloat32 hhanded _ _
  · exact @HandedOver.processAny W _ _ _ _ _ h _ .analogOutputDouble64 hhanded _ _
  · rw [show commandsOf header = [] by unfold commandsOf; split <;> simp_all, List.append_nil]
    exact hhanded

theorem handedOver_onHeaders (world : W) (writer : Option HeaderWriter)
    (headers : List ObjectHeader) :
    HandedOver cb action maxCommands world (headers.flatMap commandsOf)
      (APDUHandler.onHeaders (CommandResponseHandler.processHeader cb action maxCommands)
        (.initial world writer) headers).state :=
  APDUHandler.onHeaders_tracks
    (I := fun done h => HandedOver cb action maxCommands world (done.flatMap commandsOf) h)
    (fun n done h header hhanded => by
      rw [List.flatMap_append, List.flatMap_singleton]
      exact hhanded.processHeader n header)
    (handedOver_initial world writer) headers

variable (cb action maxCommands) in
/-- All commands succeeded when those that were handed over did. -/
theorem allCommandsSuccessful_iff (world : W) (writer : Option HeaderWriter)
    (headers : List ObjectHeader) :
    (APDUHandler.onHeaders (CommandResponseHandler.processHeader cb action maxCommands)
        (.initial world writer) headers).state.allCommandsSuccessful = true ↔
      ∀ status ∈ action.answers cb (cb.start world)
        ((headers.flatMap commandsOf).take maxCommands.toNat), status = .success := by
  have hcounts := @counts_onHeaders _ cb action maxCommands world writer headers
  rw [← (handedOver_onHeaders world writer headers).statuses, allCommandsSuccessful, beq_iff_eq,
    hcounts.successes, ← hcounts.statuses, eq_comm, List.count_eq_length]
  exact forall₂_congr fun _ _ => eq_comm

end CommandResponseHandler

/-! ## Selections -/

namespace OContext

variable {W : Type} (cb : Callbacks W) (s : OContext W)

/-- The commands of a request. -/
def commandsIn (objects : List UInt8) : List (Indexed Command) :=
  (APDUParser.parse objects true CommandResponseHandler.isAllowed).2.flatMap commandsOf

/-- The SELECT of the control state is called. -/
def Arms (objects : List UInt8) (writer : HeaderWriter) : Prop :=
  ∃ statuses, (s.handleSelect cb objects writer).1.log =
    s.log ++ [.selected s.sol.seq.num s.now objects statuses]

/-- The objects were accepted, and every command was given the status of a success. -/
structure AllSucceed (objects : List UInt8) (writer : HeaderWriter) : Prop where
  fits : objects.length ≤ writer.remaining
  parsed : (APDUParser.parse objects true CommandResponseHandler.isAllowed).1 = .ok
  statuses : ∀ status ∈ CommandAction.select.statuses cb s.params.maxControlsPerRequest s.world
    (commandsIn objects), status = .success

/-- The objects were accepted, and the commands that were handed over succeeded. -/
structure HandedOverSucceed (objects : List UInt8) (writer : HeaderWriter) : Prop where
  fits : objects.length ≤ writer.remaining
  parsed : (APDUParser.parse objects true CommandResponseHandler.isAllowed).1 = .ok
  answers : ∀ status ∈ CommandAction.select.answers cb (cb.start s.world)
    ((commandsIn objects).take s.params.maxControlsPerRequest.toNat), status = .success

variable {cb s} {objects : List UInt8} {writer : HeaderWriter}

/-- A SELECT arms an operation when the commands that are handed over succeed. -/
theorem arms_iff : s.Arms cb objects writer ↔ s.HandedOverSucceed cb objects writer := by
  have hsuccess := CommandResponseHandler.allCommandsSuccessful_iff cb .select
    s.params.maxControlsPerRequest s.world (some writer)
    (APDUParser.parse objects true CommandResponseHandler.isAllowed).2
  have hnot : ¬ ∃ statuses, s.log = s.log ++ [.selected s.sol.seq.num s.now objects statuses] := by
    rintro ⟨statuses, h⟩
    exact absurd (congrArg List.length h) (by simp)
  unfold Arms
  rw [handleSelect]
  split
  next hlt =>
    refine ⟨fun h => absurd h hnot, fun h => ?_⟩
    exact absurd hlt (Nat.not_lt.mpr h.fits)
  next hfits =>
    dsimp only
    split
    next hall =>
      refine ⟨fun _ => ⟨Nat.le_of_not_lt hfits, hall.1, hsuccess.mp hall.2⟩, fun _ => ⟨_, rfl⟩⟩
    next hsome =>
      refine ⟨fun h => absurd h hnot, fun h => ?_⟩
      exact absurd ⟨h.parsed, hsuccess.mpr h.answers⟩ hsome

/-- All commands succeed when those that are handed over do, and these are all of them. -/
theorem allSucceed_iff : s.AllSucceed cb objects writer ↔ s.HandedOverSucceed cb objects writer ∧
    (commandsIn objects).length ≤ s.params.maxControlsPerRequest.toNat := by
  have hgiven := @CommandAction.given_eq _ cb .select
    s.params.maxControlsPerRequest.toNat (cb.start s.world) (commandsIn objects)
  constructor
  · intro h
    have hstatuses := h.statuses
    rw [CommandAction.statuses, hgiven] at hstatuses
    refine ⟨⟨h.fits, h.parsed, fun status hmem =>
      hstatuses status (List.mem_append_left _ hmem)⟩, ?_⟩
    by_contra hmore
    have htoo := hstatuses .tooManyOps (List.mem_append_right _
      (List.mem_replicate.mpr ⟨by omega, rfl⟩))
    cases htoo
  · rintro ⟨h, hle⟩
    refine ⟨h.fits, h.parsed, fun status hmem => ?_⟩
    rw [CommandAction.statuses, hgiven, Nat.sub_eq_zero_of_le hle, List.replicate_zero,
      List.append_nil] at hmem
    exact h.answers status hmem

/-- A SELECT arms an operation just when all its commands succeeded, and never with more commands
than the limit, unless it has more commands than the limit and those up to the limit succeed. -/
theorem arms_iff_allSucceed :
    ((s.Arms cb objects writer ↔ s.AllSucceed cb objects writer) ∧
        (s.params.maxControlsPerRequest.toNat < (commandsIn objects).length →
          ¬ s.Arms cb objects writer)) ↔
      ¬ (s.params.maxControlsPerRequest.toNat < (commandsIn objects).length ∧
        s.HandedOverSucceed cb objects writer) := by
  rw [arms_iff, allSucceed_iff]
  constructor
  · rintro ⟨-, hnever⟩ ⟨hmore, hsucceed⟩
    exact hnever hmore hsucceed
  · intro h
    refine ⟨⟨fun hsucceed => ⟨hsucceed, ?_⟩, And.left⟩, fun hmore hsucceed => h ⟨hmore, hsucceed⟩⟩
    exact Nat.le_of_not_lt fun hmore => h ⟨hmore, hsucceed⟩

/-- Two pulses arm an operation although the second one was refused. -/
theorem not_arms_iff_allSucceed :
    ¬ ((limited.Arms countingCallbacks (pulse [100, 0, 0, 0] ++ pulse [100, 0, 0, 0])
            limited.sol.tx.start.getWriter ↔
          limited.AllSucceed countingCallbacks (pulse [100, 0, 0, 0] ++ pulse [100, 0, 0, 0])
            limited.sol.tx.start.getWriter) ∧
        (limited.params.maxControlsPerRequest.toNat <
            (commandsIn (pulse [100, 0, 0, 0] ++ pulse [100, 0, 0, 0])).length →
          ¬ limited.Arms countingCallbacks (pulse [100, 0, 0, 0] ++ pulse [100, 0, 0, 0])
            limited.sol.tx.start.getWriter)) := by
  rintro ⟨-, hnever⟩
  refine hnever (by decide +kernel) ⟨[.success], ?_⟩
  decide +kernel

end OContext
end Outstation
end Dnp3
