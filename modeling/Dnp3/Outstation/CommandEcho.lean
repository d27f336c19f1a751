import Dnp3.App.PrefixedRoom
import Dnp3.Outstation.CommandHeaders

/-!
# The echo of commands

The commands of a request are echoed in its response, each with a status.  There is one check for
room, made before anything is parsed: the response has to have as many bytes left as the objects of
the request.  A header that is echoed takes as many bytes as the header that was parsed, so there is
room for all of them, and no header and no command is refused by the writer.

`statuses` computes what the commands of a request are answered, in the surroundings that each of
them leaves for the next, and `echo` is the request with these statuses in it.  `Serving` is the
invariant of the loop over the commands: so many more commands may be handed over, and the
surroundings are those after the commands so far.  `commands_echoed` puts the pieces together: the
objects of the response are the bytes of the echo, header by header, whatever the qualifiers of the
headers are.
-/

namespace Dnp3
namespace Outstation

open App Library

/-! ## Statuses -/

/-- The commands of a header with their indices. -/
def commandsOf : ObjectHeader → List (Indexed Command)
  | .prefixOf _ _ (.controlRelayOutputBlock values) =>
    values.map fun v => ⟨.controlRelayOutputBlock v.value, v.index⟩
  | .prefixOf _ _ (.analogOutputInt16 values) =>
    values.map fun v => ⟨.analogOutputInt16 v.value, v.index⟩
  | .prefixOf _ _ (.analogOutputInt32 values) =>
    values.map fun v => ⟨.analogOutputInt32 v.value, v.index⟩
  | .prefixOf _ _ (.analogOutputFloat32 values) =>
    values.map fun v => ⟨.analogOutputFloat32 v.value, v.index⟩
  | .prefixOf _ _ (.analogOutputDouble64 values) =>
    values.map fun v => ⟨.analogOutputDouble64 v.value, v.index⟩
  | _ => []

namespace CommandAction

variable {W : Type} (cb : Callbacks W) (action : CommandAction)

/-- What a command is answered. -/
def answer (world : W) (c : Indexed Command) : W × CommandStatus :=
  match action with
  | .select => cb.select world c.value c.index
  | .operate => cb.operate world c.value c.index
  | .constant status => (world, status)

/-- The statuses of commands of which `room` are still handed over. -/
def given : (room : Nat) → W → List (Indexed Command) → List CommandStatus
  | _, _, [] => []
  | 0, world, _ :: commands => .tooManyOps :: given 0 world commands
  | room + 1, world, c :: commands =>
    (answer cb action world c).2 :: given room (answer cb action world c).1 commands

/-- The surroundings after commands of which `room` are handed over. -/
def served (room : Nat) (world : W) (commands : List (Indexed Command)) : W :=
  (commands.take room).foldl (fun world c => (answer cb action world c).1) world

/-- The statuses of the commands of a request. -/
def statuses (maxCommands : UInt8) (world : W) (commands : List (Indexed Command)) :
    List CommandStatus :=
  given cb action maxCommands.toNat (cb.start world) commands

variable {cb action}

@[simp] theorem length_given (room : Nat) (world : W) (commands : List (Indexed Command)) :
    (given cb action room world commands).length = commands.length := by
  induction commands generalizing room world with
  | nil => cases room <;> rfl
  | cons c commands ih =>
    cases room with
    | zero => exact congrArg (· + 1) (ih 0 world)
    | succ room => exact congrArg (· + 1) (ih room _)

@[simp] theorem served_nil (room : Nat) (world : W) : served cb action room world [] = world := by
  rw [served, List.take_nil, List.foldl_nil]

@[simp] theorem served_zero (world : W) (commands : List (Indexed Command)) :
    served cb action 0 world commands = world := rfl

@[simp] theorem served_succ (room : Nat) (world : W) (c : Indexed Command)
    (commands : List (Indexed Command)) :
    served cb action (room + 1) world (c :: commands) =
      served cb action room (answer cb action world c).1 commands := rfl

theorem given_append (room : Nat) (world : W) (commands commands' : List (Indexed Command)) :
    given cb action room world (commands ++ commands') = given cb action room world commands ++
      given cb action (room - commands.length) (served cb action room world commands)
        commands' := by
  induction commands generalizing room world with
  | nil =>
    rw [List.nil_append, served_nil, List.length_nil, Nat.sub_zero]
    cases room <;> rfl
  | cons c commands ih =>
    cases room with
    | zero =>
      rw [List.cons_append, given, ih, given, List.cons_append, served_zero, served_zero,
        Nat.zero_sub, Nat.zero_sub]
    | succ room =>
      rw [List.cons_append, given, ih, given, List.cons_append, List.length_cons,
        Nat.add_sub_add_right, served_succ]

end CommandAction

/-! ## Echoes -/

/-- The commands with statuses in the place of theirs. -/
def CommandType.withStatuses {T : Type} (type : CommandType T) (values : List (Indexed T))
    (statuses : List CommandStatus) : List (Indexed T) :=
  List.zipWith (fun v status => ⟨type.withStatus v.value status, v.index⟩) values statuses

/-- A header with these statuses. -/
def echoHeader (statuses : List CommandStatus) : ObjectHeader → ObjectHeader
  | .prefixOf record count (.controlRelayOutputBlock values) => .prefixOf record count
      (.controlRelayOutputBlock (CommandType.controlRelayOutputBlock.withStatuses values statuses))
  | .prefixOf record count (.analogOutputInt16 values) => .prefixOf record count
      (.analogOutputInt16 (CommandType.analogOutputInt16.withStatuses values statuses))
  | .prefixOf record count (.analogOutputInt32 values) => .prefixOf record count
      (.analogOutputInt32 (CommandType.analogOutputInt32.withStatuses values statuses))
  | .prefixOf record count (.analogOutputFloat32 values) => .prefixOf record count
      (.analogOutputFloat32 (CommandType.analogOutputFloat32.withStatuses values statuses))
  | .prefixOf record count (.analogOutputDouble64 values) => .prefixOf record count
      (.analogOutputDouble64 (CommandType.analogOutputDouble64.withStatuses values statuses))
  | header => header

/-- The headers with the statuses of their commands. -/
def echo : List ObjectHeader → List CommandStatus → List ObjectHeader
  | [], _ => []
  | header :: headers, statuses =>
    echoHeader (statuses.take (commandsOf header).length) header ::
      echo headers (statuses.drop (commandsOf header).length)

namespace CommandKind

variable {T : Type} {type : CommandType T} {wrap : List (Indexed T) → Values}
  {W : Type} {cb : Callbacks W} {action : CommandAction} {maxCommands : UInt8}

theorem commandsOf_eq (h : CommandKind type wrap) (record : HeaderRecord) (count : UInt16)
    (values : List (Indexed T)) : commandsOf (.prefixOf record count (wrap values)) =
      values.map fun v => ⟨type.command v.value, v.index⟩ := by
  cases h <;> rfl

theorem echoHeader_eq (h : CommandKind type wrap) (record : HeaderRecord) (count : UInt16)
    (values : List (Indexed T)) (statuses : List CommandStatus) :
    echoHeader statuses (.prefixOf record count (wrap values)) =
      .prefixOf record count (wrap (type.withStatuses values statuses)) := by
  cases h <;> rfl

/-- The white-list allows commands behind indices of both types. -/
theorem isAllowed (h : CommandKind type wrap) (count : Nat) (t : IndexType) :
    CommandResponseHandler.isAllowed count (GroupVariationRecord.getRecord type.serializer.id.group
      type.serializer.id.variation).enumeration (prefixQualifier t) = true := by
  cases h <;> cases t <;> rfl

/-- The bytes of a header are parsed as it was written. -/
theorem parseHeader_bytes (h : CommandKind type wrap) {t : IndexType} {values : List (Indexed T)}
    (hpos : 0 < values.length) (hlt : values.length < t.modulus)
    (hindices : ∀ v ∈ values, v.index.toNat < t.modulus) (count : Nat)
    {whiteList : Option APDUParser.WhiteList}
    (hallowed : ∀ allowed ∈ whiteList, ∀ count gv qc,
      CommandResponseHandler.isAllowed count gv qc = true → allowed count gv qc = true)
    (tail : List UInt8) :
    APDUParser.parseHeader (HeaderWriter.headerBytes type.serializer.id (prefixQualifier t) ++
        (t.bytes values.length ++
          values.flatMap (PrefixedWriteIterator.object t type.serializer)) ++ tail) count true
        whiteList =
      .ok (.prefixOf ((Contents.prefixed type.serializer wrap values).headerRecord t count)
        (UInt16.ofNat values.length) (wrap values), tail) := by
  have hqualifier : (Contents.prefixed type.serializer wrap values).qualifier t =
      prefixQualifier t := by
    cases t <;> rfl
  have hbody := Contents.Body.prefixed (t := t) type.serializer wrap values
    (Nat.le_refl values.length)
  have hallows : ∀ allowed ∈ whiteList, allowed count
      (Contents.prefixed type.serializer wrap values).record.enumeration
      ((Contents.prefixed type.serializer wrap values).qualifier t) = true := by
    rw [hqualifier]
    exact fun allowed hmem => hallowed allowed hmem _ _ _ (h.isAllowed count t)
  have hparse := Contents.parseHeader_body hbody (h.supported values) hpos ⟨hlt, hindices⟩ count
    hallows tail
  have hlossless : (Contents.prefixed type.serializer wrap values).Lossless := h.lossless
  rw [Contents.received_of_lossless hlossless, Contents.header, List.take_length,
    hqualifier] at hparse
  exact hparse

theorem processHeader_eq (h : CommandKind type wrap) (n : Nat) (handler : CommandResponseHandler W)
    (record : HeaderRecord) (count : UInt16) (values : List (Indexed T)) :
    CommandResponseHandler.processHeader cb action maxCommands n handler
        (.prefixOf record count (wrap values)) =
      CommandResponseHandler.processAny cb action maxCommands type handler record values := by
  cases h <;> rfl

end CommandKind

theorem CommandType.length_withStatuses {T : Type} (type : CommandType T)
    {values : List (Indexed T)} {statuses : List CommandStatus}
    (h : statuses.length = values.length) :
    (type.withStatuses values statuses).length = values.length := by
  rw [withStatuses, List.length_zipWith, h, Nat.min_self]

theorem CommandType.index_of_mem_withStatuses {T : Type} {type : CommandType T}
    {values : List (Indexed T)} {statuses : List CommandStatus} {v : Indexed T}
    (h : v ∈ type.withStatuses values statuses) : ∃ u ∈ values, u.index = v.index := by
  induction values generalizing statuses with
  | nil => cases h
  | cons u values ih =>
    cases statuses with
    | nil => cases h
    | cons status statuses =>
      rcases List.mem_cons.mp h with rfl | h
      · exact ⟨u, List.mem_cons_self, rfl⟩
      · obtain ⟨u', hu', hindex⟩ := ih h
        exact ⟨u', List.mem_cons_of_mem u hu', hindex⟩

/-! ## Serving commands -/

namespace CommandResponseHandler

variable {W : Type} {cb : Callbacks W} {action : CommandAction} {maxCommands : UInt8}

/-- The handler hands over so many more commands, in these surroundings. -/
structure Serving (cb : Callbacks W) (maxCommands : UInt8) (room : Nat) (world : W)
    (h : CommandResponseHandler W) : Prop where
  room : maxCommands.toNat - h.numRequests = room
  world : (h.checkStart cb).world = world

theorem serving_initial (world : W) (writer : Option HeaderWriter) :
    Serving cb maxCommands maxCommands.toNat (cb.start world) (.initial world writer) :=
  ⟨rfl, rfl⟩

/-- The action answers in the surroundings in which the handler was started. -/
theorem act_eq (h : CommandResponseHandler W) (c : Indexed Command) :
    (act cb action h c.value c.index).2 = (action.answer cb (h.checkStart cb).world c).2 ∧
      ((act cb action h c.value c.index).1.checkStart cb).world =
        (action.answer cb (h.checkStart cb).world c).1 ∧
      (act cb action h c.value c.index).1.numRequests = h.numRequests := by
  have hstarted : (h.checkStart cb).isStarted = true := by
    unfold checkStart
    split
    next hstarted => exact hstarted
    · rfl
  have hrequests : (h.checkStart cb).numRequests = h.numRequests := by
    unfold checkStart
    split <;> rfl
  have hagain : ∀ world, ({ h.checkStart cb with world := world }.checkStart cb).world = world := by
    intro world
    rw [checkStart, if_pos hstarted]
  cases action with
  | select => exact ⟨rfl, hagain _, hrequests⟩
  | operate => exact ⟨rfl, hagain _, hrequests⟩
  | constant status => exact ⟨rfl, rfl, rfl⟩

variable (action) in
/-- One more command is answered. -/
theorem Serving.processCommand {room : Nat} {world : W} {h : CommandResponseHandler W}
    (hserving : Serving cb maxCommands room world h) (c : Indexed Command) :
    ∃ world', Serving cb maxCommands (room - 1) world'
        (CommandResponseHandler.processCommand cb action maxCommands h c.value c.index).1 ∧
      ∀ commands, action.given cb room world (c :: commands) =
          (CommandResponseHandler.processCommand cb action maxCommands h c.value c.index).2 ::
            action.given cb (room - 1) world' commands ∧
        action.served cb room world (c :: commands) =
          action.served cb (room - 1) world' commands := by
  obtain ⟨hroom, hworld⟩ := hserving
  unfold CommandResponseHandler.processCommand
  split
  next hlt =>
    obtain ⟨room, rfl⟩ : ∃ n, room = n + 1 := ⟨room - 1, by omega⟩
    have hcounted : ({ h with numRequests := h.numRequests + 1 }.checkStart cb).world = world := by
      rw [← hworld]
      unfold checkStart
      dsimp only
      split <;> rfl
    obtain ⟨hstatus, hafter, hrequests⟩ := @act_eq W cb action
      { h with numRequests := h.numRequests + 1 } c
    rw [hcounted] at hstatus hafter
    refine ⟨(action.answer cb world c).1, ⟨?_, ?_⟩, fun commands => ⟨?_, rfl⟩⟩
    · show maxCommands.toNat -
        (act cb action { h with numRequests := h.numRequests + 1 } c.value c.index).1.numRequests = _
      rw [hrequests]
      dsimp only
      omega
    · rw [← hafter]
      unfold checkStart
      dsimp only
      split <;> rfl
    · exact congrArg (· :: _) hstatus.symm
  next hge =>
    obtain rfl : room = 0 := by omega
    exact ⟨world, ⟨hroom, hworld⟩, fun commands => ⟨rfl, rfl⟩⟩

variable {T : Type} {type : CommandType T}

variable (action) in
/-- What the loop over the commands of a header answers, and writes. -/
theorem Serving.respondToItems {room : Nat} {world : W} {h : CommandResponseHandler W}
    (hserving : Serving cb maxCommands room world h)
    (it : Option (PrefixedWriteIterator T × WSlice)) (ret : IINField) (values : List (Indexed T))
    {commands : List (Indexed Command)}
    (hcommands : values.map (fun v => ⟨type.command v.value, v.index⟩) = commands) :
    Serving cb maxCommands (room - values.length) (action.served cb room world commands)
        (CommandResponseHandler.respondToItems cb action maxCommands type h it ret values).1 ∧
      (CommandResponseHandler.respondToItems cb action maxCommands type h it ret values).2.1 =
        it.map fun p => PrefixedWriteIterator.writeAll p
          (type.withStatuses values (action.given cb room world commands)) := by
  subst hcommands
  induction values generalizing room world h it ret with
  | nil =>
    rw [List.map_nil, CommandAction.served_nil]
    refine ⟨hserving, ?_⟩
    cases it <;> rfl
  | cons v values ih =>
    obtain ⟨world', hnext, hgiven⟩ := hserving.processCommand action
      ⟨type.command v.value, v.index⟩
    obtain ⟨hstatuses, hserved⟩ := hgiven (values.map fun v => ⟨type.command v.value, v.index⟩)
    have hcounted : Serving cb maxCommands (room - 1) world'
        (if (CommandResponseHandler.processCommand cb action maxCommands h (type.command v.value)
            v.index).2 = .success then
          { (CommandResponseHandler.processCommand cb action maxCommands h (type.command v.value)
              v.index).1 with
            numSuccess := (CommandResponseHandler.processCommand cb action maxCommands h
              (type.command v.value) v.index).1.numSuccess + 1 }
        else (CommandResponseHandler.processCommand cb action maxCommands h (type.command v.value)
          v.index).1) := by
      split
      · refine ⟨hnext.room, ?_⟩
        rw [← hnext.world]
        unfold checkStart
        dsimp only
        split <;> rfl
      · exact hnext
    rw [List.map_cons, hstatuses, hserved, List.length_cons, Nat.add_comm, ← Nat.sub_sub]
    obtain ⟨hrest, hwritten⟩ := ih hcounted (it.map fun p => (p.1.write p.2 (type.withStatus v.value
      (CommandResponseHandler.processCommand cb action maxCommands h (type.command v.value)
        v.index).2) v.index.toNat).1) (if (CommandResponseHandler.processCommand cb action
          maxCommands h (type.command v.value) v.index).2 = .notSupported then
            ret.setBit .paramError else ret)
    refine ⟨hrest, hwritten.trans ?_⟩
    rw [Option.map_map]
    rfl

theorem Serving.withWriter {room : Nat} {world : W} {h : CommandResponseHandler W}
    (hserving : Serving cb maxCommands room world h) (writer : Option HeaderWriter) :
    Serving cb maxCommands room world { h with writer := writer } := by
  refine ⟨hserving.room, ?_⟩
  rw [← hserving.world]
  unfold checkStart
  dsimp only
  split <;> rfl

theorem processAny_eq (h : CommandResponseHandler W) (wrap : List (Indexed T) → Values)
    (values : List (Indexed T)) (t : IndexType) (count : Nat) :
    processAny cb action maxCommands type h
        ((Contents.prefixed type.serializer wrap values).headerRecord t count) values =
      respondToHeader cb action maxCommands type h t (prefixQualifier t) values := by
  have hcode : ((Contents.prefixed type.serializer wrap values).headerRecord t
      count).getQualifierCode = prefixQualifier t := by
    rw [HeaderRecord.getQualifierCode, Contents.headerRecord, QualifierCode.fromType_toType]
    cases t <;> rfl
  rw [processAny, hcode]
  cases t <;> rfl

/-- A white-list that allows commands. -/
def AllowsCommands (whiteList : APDUParser.WhiteList) : Prop :=
  ∀ count gv qc, isAllowed count gv qc = true → whiteList count gv qc = true

variable (action) in
/-- A header of commands is echoed whole when there is room for the bytes it was read from. -/
theorem Serving.processHeader {room : Nat} {world : W} {h : CommandResponseHandler W}
    (hserving : Serving cb maxCommands room world h) {count size : Nat} {header : ObjectHeader}
    (hheader : IsCommands count header size) {w : HeaderWriter} (hwriter : h.writer = some w)
    (hroom : size ≤ w.position.size) (n : Nat) :
    Serving cb maxCommands (room - (commandsOf header).length)
        (action.served cb room world (commandsOf header))
        (CommandResponseHandler.processHeader cb action maxCommands n h header).1 ∧
      ∃ w' bytes,
        (CommandResponseHandler.processHeader cb action maxCommands n h header).1.writer = some w' ∧
        w.position.Extends w'.position ∧ w'.position.written = w.position.written ++ bytes ∧
        bytes.length = size ∧
        ∀ (whiteList : Option APDUParser.WhiteList) (tail : List UInt8),
          (∀ allowed ∈ whiteList, AllowsCommands allowed) →
          APDUParser.parseHeader (bytes ++ tail) count true whiteList = .ok
            (echoHeader (action.given cb room world (commandsOf header)) header, tail) := by
  cases hheader with
  | @intro T type wrap kind t values hpos hlt hindices =>
    have hcommands := kind.commandsOf_eq
      ((Contents.prefixed type.serializer wrap values).headerRecord t count)
      (UInt16.ofNat values.length) values
    have hanswers : (action.given cb room world (commandsOf (.prefixOf
        ((Contents.prefixed type.serializer wrap values).headerRecord t count)
        (UInt16.ofNat values.length) (wrap values)))).length = values.length := by
      rw [CommandAction.length_given, hcommands, List.length_map]
    rw [kind.processHeader_eq, kind.echoHeader_eq]
    generalize commandsOf (.prefixOf
      ((Contents.prefixed type.serializer wrap values).headerRecord t count)
      (UInt16.ofNat values.length) (wrap values)) = commands at hcommands hanswers ⊢
    generalize hechoed : type.withStatuses values (action.given cb room world commands) = echoed
    have hlength : echoed.length = values.length := by
      rw [← hechoed, CommandType.length_withStatuses _ hanswers]
    have hindices' : ∀ v ∈ echoed, v.index.toNat < t.modulus := by
      intro v hv
      rw [← hechoed] at hv
      obtain ⟨u, hu, hindex⟩ := CommandType.index_of_mem_withStatuses hv
      rw [← hindex]
      exact hindices u hu
    have hitems := hserving.respondToItems action
      (some ((w.iterateOverCountWithPrefix t (prefixQualifier t) type.serializer).2,
        (w.iterateOverCountWithPrefix t (prefixQualifier t) type.serializer).1.position))
      .empty values hcommands.symm
    rw [hechoed] at hitems
    obtain ⟨hserves, hwritten⟩ := hitems
    obtain ⟨hextends, hbytes⟩ := @HeaderWriter.written_writeAll _ w t
      type.serializer (prefixQualifier t) echoed (by rwa [hlength]) (by rwa [hlength])
      (by rwa [hlength]) _ rfl
    have hnumber : commands.length = values.length := by
      rw [hcommands, List.length_map]
    rw [processAny_eq, CommandResponseHandler.respondToHeader, hwriter, hnumber]
    dsimp only
    rw [hwritten]
    refine ⟨hserves.withWriter _, _, _, rfl, hextends, hbytes, ?_, ?_⟩
    · rw [List.length_append, List.length_append, IndexType.length_bytes, length_flatMap_const
        fun v _ => PrefixedWriteIterator.length_object t type.serializer v, hlength]
      show 3 + _ = _
      rw [Nat.add_assoc]
    · intro whiteList tail hallowed
      have hrecord : (Contents.prefixed type.serializer wrap values).headerRecord t count =
          (Contents.prefixed type.serializer wrap echoed).headerRecord t count := by
        cases t <;> rfl
      rw [← hlength, hrecord]
      exact kind.parseHeader_bytes (by rwa [hlength]) (by rwa [hlength]) hindices' count
        hallowed tail

/-- What stands behind what was written is the echo of headers with these statuses. -/
structure Echoes (w w' : HeaderWriter) (count size : Nat) (headers : List ObjectHeader)
    (statuses : List CommandStatus) (bytes : List UInt8) : Prop where
  written : w'.position.written = w.position.written ++ bytes
  length : bytes.length = size
  parsed : ∀ (whiteList : Option APDUParser.WhiteList) (fuel : Nat),
    (∀ allowed ∈ whiteList, AllowsCommands allowed) → bytes.length ≤ fuel →
    APDUParser.parseHeaders true whiteList fuel count bytes = (.ok, echo headers statuses)

/-- Headers of commands are echoed one after the other. -/
theorem Serving.foldl_onHeader {room : Nat} {world : W}
    {handler : APDUHandler (CommandResponseHandler W)}
    (hserving : Serving cb maxCommands room world handler.state) {count size : Nat}
    {headers : List ObjectHeader} (hheaders : AreCommands count headers size) {w : HeaderWriter}
    (hwriter : handler.state.writer = some w) (hroom : size ≤ w.position.size) :
    ∃ w' bytes,
      (headers.foldl (APDUHandler.onHeader (CommandResponseHandler.processHeader cb action
        maxCommands)) handler).state.writer = some w' ∧
      Echoes w w' count size headers (action.given cb room world (headers.flatMap commandsOf))
        bytes := by
  induction hheaders generalizing room world handler w with
  | nil count =>
    refine ⟨w, [], hwriter, ⟨(List.append_nil _).symm, rfl, fun whiteList fuel _ _ => ?_⟩⟩
    rw [APDUParser.parseHeaders_nil, echo]
  | @cons count size sizes header headers head tail ih =>
    obtain ⟨hnext, w', bytes, hwriter', hextends, hwritten, hlength, hparse⟩ :=
      hserving.processHeader action head hwriter (Nat.le_of_add_right_le hroom)
        handler.numTotalHeaders
    have hsize := hextends.size hwritten
    obtain ⟨w'', bytes', hwriter'', hechoes⟩ := @ih _ _ (APDUHandler.onHeader
      (CommandResponseHandler.processHeader cb action maxCommands) handler header) hnext _ hwriter'
        (by omega)
    refine ⟨w'', bytes ++ bytes', hwriter'', ⟨?_, ?_, ?_⟩⟩
    · rw [hechoes.written, hwritten, List.append_assoc]
    · rw [List.length_append, hlength, hechoes.length]
    · intro whiteList fuel hallowed hfuel
      have hpos : 3 ≤ size := by
        cases head
        omega
      rw [List.length_append] at hfuel
      obtain ⟨fuel, rfl⟩ : ∃ n, fuel = n + 1 := ⟨fuel - 1, by omega⟩
      have hfirst := hparse whiteList bytes' hallowed
      rw [APDUParser.parseHeaders_ok fuel hfirst, hechoes.parsed whiteList fuel hallowed (by omega),
        List.flatMap_cons, CommandAction.given_append, echo,
        List.take_left' (CommandAction.length_given ..),
        List.drop_left' (CommandAction.length_given ..)]

variable (cb action maxCommands) in
/-- The objects of a request are echoed whole when the response has room for as many bytes. -/
theorem echoes_onHeaders (world : W) {objects : List UInt8} {headers : List ObjectHeader}
    (hparse : APDUParser.parse objects true isAllowed = (.ok, headers)) {w : HeaderWriter}
    (hroom : objects.length ≤ w.position.size) :
    ∃ w' bytes,
      (APDUHandler.onHeaders (processHeader cb action maxCommands) (.initial world (some w))
        headers).state.writer = some w' ∧
      Echoes w w' 0 objects.length headers
        (action.statuses cb maxCommands world (headers.flatMap commandsOf)) bytes :=
  @Serving.foldl_onHeader _ _ _ _ _ _ (.initial (.initial world (some w)))
    (serving_initial world (some w)) _ _ _ (areCommands_of_parse hparse) _ rfl hroom

/-- An echo is parsed by everybody who allows commands. -/
theorem Echoes.parse {w w' : HeaderWriter} {size : Nat} {headers : List ObjectHeader}
    {statuses : List CommandStatus} {bytes : List UInt8}
    (h : Echoes w w' 0 size headers statuses bytes) {whiteList : APDUParser.WhiteList}
    (hallowed : AllowsCommands whiteList) :
    APDUParser.parse bytes true whiteList = (.ok, echo headers statuses) := by
  have hcheck := h.parsed (some whiteList) bytes.length (by rintro allowed ⟨⟩; exact hallowed)
    (Nat.le_refl _)
  have hpass := h.parsed none bytes.length (by rintro allowed ⟨⟩) (Nat.le_refl _)
  rw [APDUParser.parse, APDUParser.parseSinglePass, hcheck]
  exact hpass

end CommandResponseHandler

/-! ## Responses -/

namespace OContext

variable {W : Type} (cb : Callbacks W)

/-- What an outstation does with the commands of a request. -/
def commandAction (s : OContext W) (function : FunctionCode) (objects : List UInt8) :
    CommandAction :=
  match function with
  | .select => .select
  | .operate =>
    let result := s.control.validateSelection s.sol.seq.num s.now s.params.selectTimeout objects
    if result = .success then .operate else .constant result
  | _ => .operate

variable {cb}

theorem echoes_processCommands (s : OContext W) (action : CommandAction) {objects : List UInt8}
    {headers : List ObjectHeader}
    (hparse : APDUParser.parse objects true CommandResponseHandler.isAllowed = (.ok, headers))
    {writer : HeaderWriter} (hroom : ¬ writer.remaining < objects.length) :
    ∃ writer' bytes, (s.processCommands cb action objects (some writer)).1 = .ok ∧
      (s.processCommands cb action objects (some writer)).2.state.writer = some writer' ∧
      CommandResponseHandler.Echoes writer writer' 0 objects.length headers
        (action.statuses cb s.params.maxControlsPerRequest s.world (headers.flatMap commandsOf))
        bytes := by
  obtain ⟨writer', bytes, hwriter, hechoes⟩ := CommandResponseHandler.echoes_onHeaders cb
    action s.params.maxControlsPerRequest s.world hparse (Nat.le_of_not_lt hroom)
  refine ⟨writer', bytes, ?_, ?_, hechoes⟩
  · rw [processCommands, hparse]
  · rw [processCommands, hparse]
    exact hwriter

/-- The writer after a request of commands that fits. -/
theorem echoes_handleNonReadResponse (s : OContext W) {header : APDUHeader}
    (hfunction : header.function = .select ∨ header.function = .operate ∨
      header.function = .directOperate) {objects : List UInt8} {headers : List ObjectHeader}
    (hparse : APDUParser.parse objects true CommandResponseHandler.isAllowed = (.ok, headers))
    {writer : HeaderWriter} (hroom : objects.length ≤ writer.remaining) :
    ∃ bytes, CommandResponseHandler.Echoes writer
      (s.handleNonReadResponse cb header objects writer).2.1 0 objects.length headers
      ((s.commandAction header.function objects).statuses cb s.params.maxControlsPerRequest s.world
        (headers.flatMap commandsOf)) bytes := by
  have hfits : ¬ writer.remaining < objects.length := Nat.not_lt.mpr hroom
  have hprocess := fun action => @echoes_processCommands _ cb s action _ _ hparse _ hfits
  rw [handleNonReadResponse]
  rcases hfunction with hfunction | hfunction | hfunction
  · obtain ⟨writer', bytes, hok, hwriter, hechoes⟩ := hprocess .select
    refine ⟨bytes, ?_⟩
    have hafter : (s.handleSelect cb objects writer).2.1 = some writer' := by
      rw [handleSelect, if_neg hfits]
      dsimp only
      split
      · exact hwriter
      · exact hwriter
    simp only [hfunction, hafter, Option.getD_some]
    exact hechoes
  · have hafter : (s.handleOperate cb objects writer).2.1 =
        (s.processCommands cb (s.commandAction .operate objects) objects
          (some writer)).2.state.writer := by
      rw [handleOperate, if_neg hfits, commandAction]
      dsimp only
      split
      · rfl
      · rfl
    obtain ⟨writer', bytes, hok, hwriter, hechoes⟩ := hprocess (s.commandAction .operate objects)
    refine ⟨bytes, ?_⟩
    simp only [hfunction, hafter, hwriter, Option.getD_some]
    exact hechoes
  · obtain ⟨writer', bytes, hok, hwriter, hechoes⟩ := hprocess .operate
    refine ⟨bytes, ?_⟩
    have hafter : (s.handleDirectOperate cb objects (some writer)).2.1 = some writer' := by
      have hany : ¬ (some writer).any (fun w => decide (w.remaining < objects.length)) = true := by
        simpa using hroom
      rw [handleDirectOperate, if_neg hany]
      exact hwriter
    simp only [hfunction, hafter, Option.getD_some]
    exact hechoes

/-- Every SELECT, OPERATE or DIRECT_OPERATE whose objects are accepted, and for which the response
has room, is answered with its own headers, each command with the status it was given: by the
command handler as long as commands are handed over, and that there are too many of them from then
on. -/
theorem commands_echoed (s : OContext W) {header : APDUHeader}
    (hfunction : header.function = .select ∨ header.function = .operate ∨
      header.function = .directOperate) {objects : List UInt8} {headers : List ObjectHeader}
    (hparse : APDUParser.parse objects true CommandResponseHandler.isAllowed = (.ok, headers))
    (hroom : objects.length ≤ s.sol.tx.start.getWriter.remaining) :
    ∃ fragment, (s.respondToNonReadRequest cb header objects).1.log.getLast? =
        some (.responded header objects fragment) ∧
      (fragment.bytes.drop 4).length = objects.length ∧
      ∀ whiteList, CommandResponseHandler.AllowsCommands whiteList →
        APDUParser.parse (fragment.bytes.drop 4) true whiteList =
          (.ok, echo headers ((s.commandAction header.function objects).statuses cb
            s.params.maxControlsPerRequest s.world (headers.flatMap commandsOf))) := by
  let control := AppControlField.request header.control.SEQ
  let response := (s.sol.tx.start.setFunction .response).setControl control
  let asked := { s with history := s.history.recordLastProcessedRequest header objects }
  have hremaining : response.getWriter.remaining = s.sol.tx.start.getWriter.remaining :=
    (WSlice.size_patch ..).trans (WSlice.size_patch ..)
  obtain ⟨bytes, hechoes⟩ := @echoes_handleNonReadResponse _ cb asked _ hfunction _ _ hparse
    response.getWriter (by rwa [hremaining])
  have hobjects := fun indications => s.sol.tx.objects_response .response control indications
    hechoes.written (by rwa [hechoes.length])
  refine ⟨_, List.getLast?_concat, ?_, fun whiteList hallowed => ?_⟩
  · exact (congrArg List.length (hobjects _)).trans hechoes.length
  · exact (congrArg (APDUParser.parse · true whiteList) (hobjects _)).trans
      (hechoes.parse hallowed)

/-- A pulse, and an analog output of 42 behind an index of two bytes. -/
def pulseAndAnalog : List UInt8 :=
  pulse [100, 0, 0, 0] ++ [0x29, 0x02, 0x28, 0x01, 0x00, 0x07, 0x00, 0x2A, 0x00, 0x00]

/-- At most one command is handled. -/
def limited : OContext Nat :=
  initial 0 0 (.allTypes 4) (.ofType .counter 2) { smallParams with maxControlsPerRequest := 1 }

/-- Only the first of two commands is handed over. -/
theorem commands_echoed_limited :
    ∃ fragment, (limited.respondToNonReadRequest countingCallbacks (directOperate 3)
        pulseAndAnalog).1.log.getLast? =
        some (.responded (directOperate 3) pulseAndAnalog fragment) ∧
      APDUParser.parse (fragment.bytes.drop 4) true CommandResponseHandler.isAllowed =
        (.ok, [.prefixOf ⟨.getRecord 12 1, 0x17, 0⟩ 1
            (.controlRelayOutputBlock [⟨⟨3, 1, 100, 100, .success⟩, 3⟩]),
          .prefixOf ⟨.getRecord 41 2, 0x28, 1⟩ 1
            (.analogOutputInt16 [⟨⟨42, .tooManyOps⟩, 7⟩])]) := by
  obtain ⟨fragment, hlog, -, hparse⟩ := @commands_echoed _ countingCallbacks limited
    (directOperate 3) (.inr (.inr rfl)) pulseAndAnalog
    [.prefixOf ⟨.getRecord 12 1, 0x17, 0⟩ 1
        (.controlRelayOutputBlock [⟨⟨3, 1, 100, 100, .success⟩, 3⟩]),
      .prefixOf ⟨.getRecord 41 2, 0x28, 1⟩ 1 (.analogOutputInt16 [⟨⟨42, .success⟩, 7⟩])]
    (by decide +kernel) (by decide +kernel)
  refine ⟨fragment, hlog, ?_⟩
  rw [hparse CommandResponseHandler.isAllowed fun _ _ _ h => h]
  rfl

end OContext
end Outstation
end Dnp3
