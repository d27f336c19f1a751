import Dnp3.Master.CommandEchoes
import Dnp3.Master.ConfirmSessions
import Dnp3.Master.SessionRuns

/-!
# Commands are selected before they are operated

A task that selects and operates sends its commands twice.  The second time it sends them only when
the response to the SELECT has echoed every command, and a command has succeeded only when the
response to the OPERATE has echoed it.

`Selected` describes the exchanges after which an OPERATE may be sent, and `Stage` where the task is
in them: its SELECT is out, its OPERATE is out, or it is over.  `CommandSession` is the invariant of
the session of such a task, shown for one step at a time: a request, a response, or an end without a
response.  With `Master.SessionRuns` it holds in all runs of a master, and
`commands_operate_selected` is what it says about the log: an OPERATE is only sent behind an echo of
all commands, with the bytes of the SELECT, and a command succeeds only when the response to the
OPERATE has echoed it.
-/

namespace Dnp3
namespace Master

open App Library Relation

/-! ## What the exchanges of a task say -/

/-- A request with all the commands. -/
def commandRequest (seq : AppSeqNum) (code : FunctionCode) (commands : CommandSet) : List UInt8 :=
  (AppControlField.request seq).toByte :: code.toType :: CommandSetOps.objects commands

/-- What a task has exchanged since it started, when its SELECT has been answered by an echo of all
the commands. -/
inductive Selected (commands : CommandSet) : List Exchange → Prop
  | intro (header : APDUResponseHeader) (objects : List UInt8)
      (hselected : CommandSetOps.SelectedBy commands objects) :
      Selected commands [.start, .request (commandRequest header.control.SEQ .select commands),
        .response header objects]

/-- Every OPERATE follows a SELECT whose response has echoed all the commands, and sends the objects
of the SELECT. -/
def OperatesSelected (commands : CommandSet) (exchanges : List Exchange) : Prop :=
  ∀ before apdu after, exchanges = before ++ .request apdu :: after →
    apdu[1]? = some FunctionCode.operate.toType →
    ∃ earlier selected seq, before = earlier ++ selected ∧ Selected commands selected ∧
      apdu = commandRequest seq .operate commands

/-- When a command has succeeded, the last response is that to the OPERATE, and it has echoed every
command that has succeeded, with the status that is recorded. -/
def SucceedsEchoed (commands : CommandSet) (exchanges : List Exchange) (set : CommandSet) : Prop :=
  (∃ header ∈ set, header.Succeeded) → ∃ earlier header objects after,
    exchanges = earlier ++
      .request (commandRequest header.control.SEQ .operate commands) ::
        .response header objects :: after ∧
    (∀ x ∈ after, ∃ result, x = .ended result) ∧
    CommandSetOps.EchoedWhereSucceeded set objects

/-- What holds of a task with these commands. -/
structure Operates (commands : CommandSet) (exchanges : List Exchange) (body : TaskBody) :
    Prop where
  selected : OperatesSelected commands exchanges
  echoed : ∃ codes set, body = .command codes set ∧ set.map ICommandHeader.asMade = commands ∧
    SucceedsEchoed commands exchanges set

variable {commands set : CommandSet} {exchanges : List Exchange} {t t' : TaskSession}

theorem operatesSelected_of_notRequest (h : ∀ apdu, .request apdu ∉ exchanges) :
    OperatesSelected commands exchanges := by
  intro before apdu after heq
  exact absurd (by simp [heq]) (h apdu)

/-- Exchanges that are no OPERATE. -/
theorem OperatesSelected.concat (h : OperatesSelected commands exchanges) {x : Exchange}
    (hx : ∀ apdu, x = .request apdu → apdu[1]? ≠ some FunctionCode.operate.toType) :
    OperatesSelected commands (exchanges ++ [x]) := by
  intro before apdu after heq hoperate
  rcases List.eq_nil_or_concat after with rfl | ⟨after, last, rfl⟩
  · obtain ⟨-, hlast⟩ := List.append_inj' heq rfl
    exact absurd hoperate (hx apdu (by simpa using hlast))
  · rw [List.concat_eq_append, ← List.cons_append, ← List.append_assoc] at heq
    exact h before apdu after (List.append_inj' heq rfl).1 hoperate

/-- An OPERATE after the echo of a SELECT. -/
theorem OperatesSelected.operate {earlier selected : List Exchange}
    (h : OperatesSelected commands (earlier ++ selected)) (hselected : Selected commands selected)
    (seq : AppSeqNum) :
    OperatesSelected commands
      (earlier ++ selected ++ [Exchange.request (commandRequest seq .operate commands)]) := by
  intro before apdu after heq hoperate
  rcases List.eq_nil_or_concat after with rfl | ⟨after, last, rfl⟩
  · obtain ⟨hbefore, hlast⟩ := List.append_inj' heq rfl
    obtain rfl : commandRequest seq .operate commands = apdu := by simpa using hlast
    exact ⟨earlier, selected, seq, hbefore.symm, hselected, rfl⟩
  · rw [List.concat_eq_append, ← List.cons_append, ← List.append_assoc] at heq
    exact h before apdu after (List.append_inj' heq rfl).1 hoperate

theorem succeedsEchoed_of_not (h : ∀ header ∈ set, ¬ header.Succeeded) :
    SucceedsEchoed commands exchanges set := by
  rintro ⟨header, hheader, hsuccess⟩
  exact absurd hsuccess (h header hheader)

theorem SucceedsEchoed.ended (h : SucceedsEchoed commands exchanges set)
    (result : TaskCompletion) :
    SucceedsEchoed commands (exchanges ++ [Exchange.ended result]) set := by
  intro hsuccess
  obtain ⟨earlier, header, objects, after, rfl, hafter, hechoed⟩ := h hsuccess
  refine ⟨earlier, header, objects, after ++ [Exchange.ended result], by simp, fun x hx => ?_,
    hechoed⟩
  rcases List.mem_append.mp hx with hx | hx
  · exact hafter x hx
  · exact ⟨result, by simpa using hx⟩

/-! ## What the task does -/

/-- Where a task with these commands is; what is not active has not started or is over. -/
inductive Stage (commands : CommandSet) (t : TaskSession) : TaskPhase → Prop
  | idle (hbody : t.made = true → .start ∉ t.exchanges →
        t.body = .command [.select, .operate] commands) :
      Stage commands t .idle
  | ready (earlier : List Exchange) (hexchanges : t.exchanges = earlier ++ [.start])
      (hbody : t.body = .command [.select, .operate] commands) :
      Stage commands t .ready
  | selecting (earlier : List Exchange) (seq : AppSeqNum)
      (hexchanges : t.exchanges =
        earlier ++ [.start, .request (commandRequest seq .select commands)])
      (hbody : t.body = .command [.operate] commands)
      (hnonempty : ∀ header ∈ commands, header.Nonempty) :
      Stage commands t (.waiting seq)
  | selected (earlier selected : List Exchange) (set : CommandSet)
      (hexchanges : t.exchanges = earlier ++ selected) (hselected : Selected commands selected)
      (hbody : t.body = .command [.operate] set)
      (hnone : ∀ header ∈ set, ¬ header.Succeeded) :
      Stage commands t .ready
  | operating (earlier selected : List Exchange) (seq : AppSeqNum) (set : CommandSet)
      (hexchanges : t.exchanges =
        earlier ++ selected ++ [.request (commandRequest seq .operate commands)])
      (hselected : Selected commands selected)
      (hbody : t.body = .command [] set) (hnone : ∀ header ∈ set, ¬ header.Succeeded) :
      Stage commands t (.waiting seq)

namespace CommandTask

variable {codes : List FunctionCode} {code : FunctionCode} {set' : CommandSet}
  {result : ResponseResult}

/-- The response to the SELECT. -/
theorem processResponse_select (hmade : set.map ICommandHeader.asMade = set)
    (hne : ∀ header ∈ set, header.Nonempty) {header : APDUResponseHeader} {objects : List UInt8}
    (hanswer : processResponse (code :: codes) set header objects = (set', result)) :
    set'.map ICommandHeader.asMade = set ∧ (∀ header ∈ set', ¬ header.Succeeded) ∧
      (result = .okRepeat ∧ CommandSetOps.SelectedBy set objects ∨
        result.completion.isSome = true ∧ ∀ seq, result.nextPhase seq = .idle) := by
  have hnone := CommandSetOps.not_succeeded_of_asMade hmade
  have hset := CommandSetOps.asMade_processSelectResponse set objects
  have hnone' := CommandSetOps.not_succeeded_processSelectResponse hnone objects
  have hok : (CommandSetOps.processSelectResponse set objects).2 = .ok →
      CommandSetOps.SelectedBy set objects :=
    CommandSetOps.selectedBy_processSelectResponse hmade hne
  rw [hmade] at hset
  unfold processResponse processObjects at hanswer
  split at hanswer
  · rw [List.isEmpty_cons, if_neg Bool.false_ne_true] at hanswer
    rcases hselect : CommandSetOps.processSelectResponse set objects with ⟨applied, selected⟩
    rw [hselect] at hset hnone' hok hanswer
    cases selected with
    | ok =>
      cases hanswer
      exact ⟨hset, hnone', .inl ⟨rfl, hok rfl⟩⟩
    | failSelect =>
      cases hanswer
      exact ⟨hset, hnone', .inr ⟨rfl, fun _ => rfl⟩⟩
    | failParse =>
      cases hanswer
      exact ⟨hset, hnone', .inr ⟨rfl, fun _ => rfl⟩⟩
  · cases hanswer
    exact ⟨hmade, hnone, .inr ⟨rfl, fun _ => rfl⟩⟩

/-- The response to the OPERATE. -/
theorem processResponse_operate (hnone : ∀ header ∈ set, ¬ header.Succeeded)
    {header : APDUResponseHeader} {objects : List UInt8}
    (hanswer : processResponse [] set header objects = (set', result)) :
    set'.map ICommandHeader.asMade = set.map ICommandHeader.asMade ∧
      CommandSetOps.EchoedWhereSucceeded set' objects ∧
        result.completion.isSome = true ∧ ∀ seq, result.nextPhase seq = .idle := by
  have hset := CommandSetOps.asMade_applyResponse .operate set objects
  have hechoed := CommandSetOps.echoed_processOperateResponse hnone objects
  unfold processResponse processObjects at hanswer
  split at hanswer
  · rw [List.isEmpty_nil, if_pos rfl] at hanswer
    rcases hoperate : CommandSetOps.processOperateResponse set objects with ⟨applied, operated⟩
    have happlied : applied = (CommandSetOps.applyResponse .operate set objects).2 :=
      (congrArg Prod.fst hoperate).symm
    rw [hoperate] at hechoed hanswer
    rw [← happlied] at hset
    cases operated with
    | ok =>
      cases hanswer
      exact ⟨hset, hechoed, rfl, fun _ => rfl⟩
    | failParse =>
      cases hanswer
      exact ⟨hset, hechoed, rfl, fun _ => rfl⟩
  · cases hanswer
    refine ⟨rfl, fun k header hk hsuccess => ?_, rfl, fun _ => rfl⟩
    exact absurd hsuccess (hnone header (List.mem_of_getElem? hk))

/-- The next request has all the commands. -/
theorem buildRequest_eq {a : Surroundings} {mem : List UInt8} {seq : AppSeqNum}
    (hmem : 2 ≤ mem.length)
    (hbuilt : ((TaskBody.command (code :: codes) set).buildRequest a (.create mem) seq).2.2 =
      true) :
    ((TaskBody.command (code :: codes) set).buildRequest a (.create mem) seq).2.1.toRSlice =
        commandRequest seq code set ∧
      ((TaskBody.command (code :: codes) set).buildRequest a (.create mem) seq).1 =
        .command codes set ∧
      ∀ header ∈ set, header.Nonempty := by
  have hwrote : (buildRequest (code :: codes) set (.create mem) seq).2.2 = true := hbuilt
  exact ⟨written_buildRequest hmem hwrote, rfl,
    CommandSetOps.nonempty_of_write (Prod.ext rfl hbuilt)⟩

end CommandTask

/-- What holds of the session of a task with these commands. -/
structure CommandSession (commands : CommandSet) (t : TaskSession) : Prop where
  unmade : t.made = false → t.phase = .idle ∧ ∀ x ∈ t.exchanges, ∃ result, x = .ended result
  operates : t.made = true → Operates commands t.exchanges t.body
  stage : Stage commands t t.phase

/-- The task is made with these commands. -/
def SelectsAndOperates (commands : CommandSet) : TaskSession.Terms where
  Makes body := body = .command [.select, .operate] commands
  Hands _ _ _ := True

theorem CommandSession.made (h : CommandSession commands t) (hphase : t.phase ≠ .idle) :
    t.made = true := by
  by_contra hnew
  exact hphase (h.unmade (by simpa using hnew)).1

theorem Stage.start_mem {phase : TaskPhase} (h : Stage commands t phase)
    (hphase : phase ≠ .idle) : .start ∈ t.exchanges := by
  cases h with
  | idle hbody => exact absurd rfl hphase
  | ready earlier hexchanges hbody => simp [hexchanges]
  | selecting earlier seq hexchanges hbody hnonempty => simp [hexchanges]
  | selected earlier selected set hexchanges hselected hbody hnone =>
    cases hselected
    simp [hexchanges]
  | operating earlier selected seq set hexchanges hselected hbody hnone =>
    cases hselected
    simp [hexchanges]

theorem operate_ne_select (seq : AppSeqNum) (commands : CommandSet) :
    (commandRequest seq .select commands)[1]? ≠ some FunctionCode.operate.toType := by
  simp [commandRequest, FunctionCode.toType]

theorem Operates.ended {body : TaskBody} (h : Operates commands exchanges body)
    (result : TaskCompletion) : Operates commands (exchanges ++ [Exchange.ended result]) body := by
  obtain ⟨codes, set, hbody, hmade, hechoed⟩ := h.echoed
  exact ⟨h.selected.concat (by simp), codes, set, hbody, hmade, hechoed.ended result⟩

/-- The task ends without a response, with its commands as they are. -/
theorem CommandSession.ended (h : CommandSession commands t) (result : TaskCompletion) :
    CommandSession commands
      { t with exchanges := t.exchanges ++ [Exchange.ended result], phase := .idle } where
  unmade hnew := by
    refine ⟨rfl, fun x hx => ?_⟩
    rcases List.mem_append.mp hx with hx | hx
    · exact (h.unmade hnew).2 x hx
    · exact ⟨result, by simpa using hx⟩
  operates hmade := (h.operates hmade).ended result
  stage := by
    refine .idle fun hmade hstart => ?_
    have hstart : .start ∉ t.exchanges := fun hmem => hstart (List.mem_append_left _ hmem)
    have hstage := h.stage
    cases hphase : t.phase with
    | idle =>
      rw [hphase] at hstage
      cases hstage with
      | idle hbody => exact hbody hmade hstart
    | ready => exact absurd (h.stage.start_mem (by simp [hphase])) hstart
    | waiting seq => exact absurd (h.stage.start_mem (by simp [hphase])) hstart

/-- What a task of commands makes of a response. -/
theorem answer_command {codes : List FunctionCode} (hbody : t.body = .command codes set)
    {a : Surroundings} {header : APDUResponseHeader} {objects : List UInt8} {set' : CommandSet}
    {result : ResponseResult}
    (hanswer : CommandTask.processResponse codes set header objects = (set', result)) :
    t.answer a header objects =
      { t with
        exchanges := t.exchanges ++
          .response header objects :: (result.completion.map Exchange.ended).toList
        phase := result.nextPhase header.control.SEQ
        body := .command codes set' } := by
  simp only [TaskSession.answer, hbody, TaskBody.processResponse, hanswer]

/-- A response that ends the task. -/
theorem CommandSession.finish (h : CommandSession commands t) (hphase : t.phase ≠ .idle)
    {codes : List FunctionCode} (hbody : t.body = .command codes set) {a : Surroundings}
    {header : APDUResponseHeader} {objects : List UInt8} {set' : CommandSet}
    {result : ResponseResult}
    (hanswer : CommandTask.processResponse codes set header objects = (set', result))
    (hset : set'.map ICommandHeader.asMade = commands)
    (hends : result.completion.isSome = true ∧ ∀ seq, result.nextPhase seq = .idle)
    (hechoed : SucceedsEchoed commands (t.exchanges ++ [Exchange.response header objects]) set') :
    CommandSession commands (t.answer a header objects) := by
  have hstart := h.stage.start_mem hphase
  have hmade := h.made hphase
  rw [answer_command hbody hanswer, hends.2]
  obtain ⟨completion, hcompletion⟩ := Option.isSome_iff_exists.mp hends.1
  have hexchanges : t.exchanges ++
      .response header objects :: (result.completion.map Exchange.ended).toList =
        t.exchanges ++ [Exchange.response header objects] ++ [Exchange.ended completion] := by
    simp [hcompletion]
  rw [hexchanges]
  refine ⟨fun hnew => absurd (hmade.symm.trans hnew) (by simp), fun _ => ?_, ?_⟩
  · exact Operates.ended ⟨(h.operates hmade).selected.concat (by simp), codes, set', rfl, hset,
      hechoed⟩ completion
  · exact .idle fun _ hnot => absurd (by simp [hstart]) hnot

/-- The response to the SELECT or to the OPERATE. -/
theorem CommandSession.response (h : CommandSession commands t)
    (hnew : commands.map ICommandHeader.asMade = commands) {a : Surroundings}
    {header : APDUResponseHeader} {objects : List UInt8}
    (hwaiting : t.phase = .waiting header.control.SEQ) :
    CommandSession commands (t.answer a header objects) := by
  have hphase : t.phase ≠ .idle := by simp [hwaiting]
  have hmade := h.made hphase
  have hoperates := h.operates hmade
  have hstage := h.stage
  rw [hwaiting] at hstage
  cases hstage with
  | selecting earlier seq hexchanges hbody hnonempty =>
    rcases hanswer : CommandTask.processResponse [.operate] commands header objects with
      ⟨set, result⟩
    obtain ⟨hset, hnone, ⟨rfl, hselected⟩ | hends⟩ :=
      CommandTask.processResponse_select hnew hnonempty hanswer
    · rw [answer_command hbody hanswer]
      have hexchanges' : t.exchanges ++ [Exchange.response header objects] = earlier ++
          [Exchange.start, .request (commandRequest header.control.SEQ .select commands),
            .response header objects] := by
        simp [hexchanges]
      refine ⟨fun hnot => absurd (hmade.symm.trans hnot) (by simp), fun _ => ?_, ?_⟩
      · exact ⟨hoperates.selected.concat (by simp), [.operate], set, rfl, hset,
          succeedsEchoed_of_not hnone⟩
      · exact .selected earlier _ set hexchanges' ⟨header, objects, hselected⟩ rfl hnone
    · exact h.finish hphase hbody hanswer hset hends (succeedsEchoed_of_not hnone)
  | operating earlier selected seq set hexchanges hselected hbody hnone =>
    rcases hanswer : CommandTask.processResponse [] set header objects with ⟨set', result⟩
    obtain ⟨hset, hechoed, hends⟩ := CommandTask.processResponse_operate hnone hanswer
    obtain ⟨codes, set₁, hbody₁, hmade₁, -⟩ := hoperates.echoed
    obtain ⟨-, rfl⟩ : codes = [] ∧ set₁ = set := by simpa [hbody₁] using hbody
    refine h.finish hphase hbody hanswer (hset.trans hmade₁) hends fun _ => ?_
    exact ⟨earlier ++ selected, header, objects, [], by simp [hexchanges], by simp, hechoed⟩

/-- The next request of the task. -/
theorem CommandSession.request (h : CommandSession commands t)
    (hnew : commands.map ICommandHeader.asMade = commands) {a : Surroundings}
    {txBuffer : List UInt8} (hroom : 2 ≤ txBuffer.length) {seq : AppSeqNum}
    (hready : t.phase = .ready)
    (hbuilt : (t.body.buildRequest a (.create txBuffer) seq).2.2 = true) :
    CommandSession commands { t with
      exchanges := t.exchanges ++
        [Exchange.request (t.body.buildRequest a (.create txBuffer) seq).2.1.toRSlice]
      phase := .waiting seq
      body := (t.body.buildRequest a (.create txBuffer) seq).1 } := by
  have hphase : t.phase ≠ .idle := by simp [hready]
  have hmade := h.made hphase
  have hoperates := h.operates hmade
  obtain ⟨codes, set, hbody, hset, hechoed⟩ := hoperates.echoed
  have hstage := h.stage
  rw [hready] at hstage
  cases hstage with
  | ready earlier hexchanges hbody =>
    rw [hbody] at hbuilt hoperates ⊢
    obtain ⟨hrequest, hbody', hnonempty⟩ := CommandTask.buildRequest_eq hroom hbuilt
    rw [hrequest, hbody']
    obtain ⟨_, _, ⟨⟩, hset, -⟩ := hoperates.echoed
    refine ⟨fun hnot => absurd (hmade.symm.trans hnot) (by simp), fun _ => ?_, ?_⟩
    · refine ⟨hoperates.selected.concat ?_, _, _, rfl, hset,
        succeedsEchoed_of_not (CommandSetOps.not_succeeded_of_asMade hnew)⟩
      rintro apdu ⟨⟩
      exact operate_ne_select seq commands
    · exact .selecting earlier seq (by simp [hexchanges]) rfl hnonempty
  | selected earlier selected set hexchanges hselected hbody hnone =>
    rw [hbody] at hbuilt hoperates ⊢
    obtain ⟨hrequest, hbody', -⟩ := CommandTask.buildRequest_eq hroom hbuilt
    obtain ⟨_, _, ⟨⟩, hset, -⟩ := hoperates.echoed
    have hobjects : CommandSetOps.objects set = CommandSetOps.objects commands :=
      CommandSetOps.objects_congr (hset.trans hnew.symm)
    have hcommands : commandRequest seq .operate set = commandRequest seq .operate commands := by
      rw [commandRequest, commandRequest, hobjects]
    rw [hrequest, hcommands, hbody']
    refine ⟨fun hnot => absurd (hmade.symm.trans hnot) (by simp), fun _ => ?_, ?_⟩
    · refine ⟨?_, _, _, rfl, hset, succeedsEchoed_of_not hnone⟩
      have hoperate := hoperates.selected
      rw [hexchanges] at hoperate ⊢
      exact hoperate.operate hselected seq
    · exact .operating earlier selected seq set (by simp [hexchanges]) hselected rfl hnone

theorem CommandSession.step (hnew : commands.map ICommandHeader.asMade = commands)
    (hstep : TaskSession.Step (SelectsAndOperates commands) t t')
    (h : CommandSession commands t) : CommandSession commands t' := by
  cases hstep with
  | make body hunmade hidle hmakes =>
    obtain rfl : body = .command [.select, .operate] commands := hmakes
    have hended := (h.unmade hunmade).2
    refine ⟨(nomatch ·), fun _ => ⟨?_, _, _, rfl, hnew, ?_⟩, ?_⟩
    · refine operatesSelected_of_notRequest fun apdu hmem => ?_
      obtain ⟨_, ⟨⟩⟩ := hended _ hmem
    · exact succeedsEchoed_of_not (CommandSetOps.not_succeeded_of_asMade hnew)
    · rw [hidle]
      exact .idle fun _ _ => rfl
  | start hidle hmade honce =>
    have hoperates := h.operates hmade
    obtain ⟨codes, set, hbody, hset, hechoed⟩ := hoperates.echoed
    have hstage := h.stage
    rw [hidle] at hstage
    cases hstage with
    | idle hfirst =>
      have hfirst := hfirst hmade (honce.resolve_left (by simp [hbody, TaskBody.isRecurring]))
      rw [hfirst] at hoperates ⊢
      obtain ⟨_, _, ⟨⟩, hset, -⟩ := hoperates.echoed
      refine ⟨fun hnot => absurd (hmade.symm.trans hnot) (by simp), fun _ => ?_, ?_⟩
      · exact ⟨hoperates.selected.concat (by simp), _, _, rfl, hset,
          succeedsEchoed_of_not (CommandSetOps.not_succeeded_of_asMade hnew)⟩
      · exact .ready t.exchanges rfl rfl
  | request a happends txBuffer hroom seq hready hbuilt =>
    exact h.request hnew hroom hready hbuilt
  | unbuilt a txBuffer seq hready hbuilt =>
    have hphase : t.phase ≠ .idle := by simp [hready]
    have hstart := h.stage.start_mem hphase
    have hoperates := h.operates (h.made hphase)
    obtain ⟨codes, set, hbody, hset, hechoed⟩ := hoperates.echoed
    refine ⟨fun hnot => absurd ((h.made hphase).symm.trans hnot) (by simp), fun _ => ?_, ?_⟩
    · rw [hbody]
      exact Operates.ended ⟨hoperates.selected, _, set, rfl, hset, hechoed⟩ _
    · exact .idle fun _ hnot => absurd (by simp [hstart]) hnot
  | response a header objects hwaiting hhanded => exact h.response hnew hwaiting
  | ended result hresult => exact h.ended result

/-! ## Runs -/

namespace MContext

variable {n : Nat}

/-- If the event makes the task with this number, it is a request to select and operate these
commands. -/
def Traced.RequestsCommands (n : Nat) (commands : CommandSet) (t : Traced)
    (e : Event × Surroundings) : Prop :=
  ∀ request, e.1 = .scheduleAdhocTask request → t.context.adhocTasks = n →
    request = .selectAndOperate commands

theorem Traced.RequestsCommands.follows {t : Traced} {e : Event × Surroundings}
    (h : t.RequestsCommands n commands e) :
    t.Follows (SelectsAndOperates commands) (.adhoc n) e := by
  refine ⟨fun body hbody => ?_, fun _ _ _ => trivial⟩
  obtain ⟨e, a⟩ := e
  cases e with
  | scheduleAdhocTask request =>
    simp only [newBody, Option.mem_def] at hbody
    split at hbody
    next heq =>
      cases hbody
      cases heq
      rw [h request rfl rfl]
      rfl
    · cases hbody
  | addScan period => simp [newBody] at hbody
  | _ => cases hbody

theorem Traced.commandSession_initial (params : MasterParams) (n : Nat) (commands : CommandSet) :
    CommandSession commands ((Traced.initial params).session (.adhoc n)) := by
  rw [Traced.session_initial]
  have hnot : (MContext.initial params).isMade (.adhoc n) ≠ true := by
    simp [isMade, MContext.initial]
  exact ⟨fun _ => ⟨rfl, by simp⟩, fun hmade => absurd hmade hnot,
    .idle fun hmade => absurd hmade hnot⟩

/-- Once the task has been made, it operates only what was selected, and a command succeeds only
when it has been echoed. -/
def Traced.OperatesSelected (n : Nat) (commands : CommandSet) (t : Traced) : Prop :=
  n < t.context.adhocTasks →
    Operates commands t.exchanges (t.context.tasks (.adhoc n)).body

/-- In every run, a request of the user to select and operate commands operates them only after the
response to the SELECT has echoed them all, and a command succeeds only when the response to the
OPERATE has echoed it. -/
theorem commands_operate_selected {params : MasterParams} (hroom : 2 ≤ params.maxTxFragSize)
    (n : Nat) (hnew : commands.map ICommandHeader.asMade = commands)
    {events : List (Event × Surroundings)} (happends : ∀ e ∈ events, e.2.Appends)
    (hrequests : Throughout (Traced.step (.adhoc n)) (Traced.RequestsCommands n commands)
      (Traced.initial params) events) :
    Always (Traced.step (.adhoc n)) (Traced.OperatesSelected n commands)
      (Traced.initial params) events := by
  have hfollows : Throughout (Traced.step (.adhoc n))
      (Traced.Follows (SelectsAndOperates commands) (.adhoc n)) (Traced.initial params) events :=
    hrequests.imp (I := fun _ => True) (fun _ _ _ _ => trivial) (fun _ _ _ h => h.follows) trivial
  refine (Traced.always_steps hroom happends hfollows).imp fun t hsteps hmade => ?_
  have hsession : CommandSession commands (t.session (.adhoc n)) :=
    hsteps.keeps (fun _ _ hstep h => h.step hnew hstep)
      (Traced.commandSession_initial params n commands)
  exact hsession.operates (by simpa [Traced.session, session, isMade] using hmade)

/-- A relay is to be closed. -/
def relayCommands : CommandSet :=
  [.crob (.ofPairs [⟨⟨3, 1, 100, 100, .success⟩, 7⟩])]

/-- The SELECT and the OPERATE are echoed. -/
def relayEvents : List (Event × Surroundings) :=
  [.lowerLayerUp, .scheduleAdhocTask (.selectAndOperate relayCommands), .sendResult,
    .receive (0xC0 :: 0x81 :: 0 :: 0 :: CommandSetOps.objects relayCommands), .sendResult,
    .receive (0xC1 :: 0x81 :: 0 :: 0 :: CommandSetOps.objects relayCommands)].map
    fun e => (e, exampleSurroundings)

theorem commands_operate_selected_relay :
    Always (Traced.step (.adhoc 0)) (Traced.OperatesSelected 0 relayCommands)
        (Traced.initial exampleParams) relayEvents ∧
      .request (commandRequest 1 .operate relayCommands) ∈
        (run (Traced.step (.adhoc 0)) (Traced.initial exampleParams) relayEvents).exchanges := by
  refine ⟨commands_operate_selected (by decide) 0 rfl ?_ ?_, by decide +kernel⟩
  · intro e he
    obtain ⟨_, _, rfl⟩ := List.mem_map.mp he
    exact fun _ => .refl _
  · refine throughout_of_forall fun e he t request hrequest _ => ?_
    simp only [relayEvents, List.map_cons, List.map_nil, List.mem_cons, List.not_mem_nil,
      or_false] at he
    obtain rfl | rfl | rfl | rfl | rfl | rfl := he <;> cases hrequest
    rfl

end MContext
end Master
end Dnp3
