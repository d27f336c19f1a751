import Dnp3.Outstation.LoadedFragments

/-!
# The response to a READ

A READ is answered by one fragment or more.  Each of them but the final one asks for a confirm and
is followed by the next one when its confirm has come in, and a fragment with events asks for a
confirm too.  `Reading` is what an observer of the outstation, who sees the fragments and the
confirms, knows about the response that is under way; `Reading.next` says what may happen next.

What may happen is what happens, as long as nothing disturbs the response: no record is selected
twice; while a confirm is awaited, no update, unsolicited response or timeout decides whether
something is selected; no other request takes the place of a confirm that is kept for later, and the
timer does not expire before it is taken up; and the count of fragments does not wrap.
-/

namespace Dnp3
namespace Outstation

open App Library

/-! ## What an observer sees -/

/-- What is known of the response to a READ. -/
inductive Reading where
  | idle
  /-- The confirm of a fragment, perhaps the final one, is awaited. -/
  | awaiting (seq : AppSeqNum) (final : Bool)
  /-- A fragment was confirmed and the next one is due. -/
  | due (seq : AppSeqNum)
  deriving DecidableEq, Repr

/-- The control field of a fragment, the first one or a later one, is as it should be. -/
structure Fragment.InTurn (f : Fragment) (first : Bool) (seq : AppSeqNum) : Prop where
  fir : f.control.FIR = first
  seq : f.control.SEQ = seq
  con : f.control.FIN = false → f.control.CON = true
  con_events : f.events ≠ [] → f.control.CON = true

instance (f : Fragment) (first : Bool) (seq : AppSeqNum) : Decidable (f.InTurn first seq) :=
  decidable_of_iff (f.control.FIR = first ∧ f.control.SEQ = seq ∧
      (f.control.FIN = false → f.control.CON = true) ∧ (f.events ≠ [] → f.control.CON = true))
    ⟨fun h => ⟨h.1, h.2.1, h.2.2.1, h.2.2.2⟩, fun h => ⟨h.fir, h.seq, h.con, h.con_events⟩⟩

namespace Reading

/-- What is known behind a fragment. -/
def behind (f : Fragment) : Reading :=
  if f.control.CON then .awaiting f.control.SEQ f.control.FIN else .idle

/-- What is known after an effect, if it may happen. -/
def next (r : Reading) : Effect → Option Reading
  | .responded header _ f =>
    match r with
    | .idle =>
      if header.function = .read then
        if f.InTurn true header.control.SEQ then some (.behind f) else none
      else some .idle
    | .awaiting .. => if header.function = .read then none else some r
    | .due _ => none
  | .continued f =>
    match r with
    | .due seq => if f.InTurn false (seq + 1) then some (.behind f) else none
    | _ => none
  | .repeated .. =>
    match r with
    | .due _ => none
    | _ => some r
  | .unsolicited _ =>
    match r with
    | .due _ => none
    | _ => some r
  | .confirmReceived control =>
    match r with
    | .awaiting seq false => if control.UNS = false ∧ control.SEQ = seq then some (.due seq) else r
    | _ => some r
  | .confirmed control _ =>
    if control.UNS then some r
    else
      match r with
      | .awaiting seq true => if control.SEQ = seq then some .idle else none
      | .due seq => if control.SEQ = seq then some r else none
      | _ => none
  | .abandoned =>
    match r with
    | .due _ => none
    | _ => some .idle
  | .layerDown => some .idle
  | _ => some r

/-! ### What may happen next -/

theorem next_first {header : APDUHeader} {objects : List UInt8} {f : Fragment}
    (hread : header.function = .read) (hturn : f.InTurn true header.control.SEQ) :
    idle.next (.responded header objects f) = some (.behind f) := by
  show (if header.function = .read then
    if f.InTurn true header.control.SEQ then some (Reading.behind f) else none
    else some .idle) = _
  rw [if_pos hread, if_pos hturn]

theorem next_other {header : APDUHeader} {objects : List UInt8} {f : Fragment}
    (hread : header.function ≠ .read) : idle.next (.responded header objects f) = some .idle := by
  show (if header.function = .read then
    if f.InTurn true header.control.SEQ then some (Reading.behind f) else none
    else some .idle) = _
  rw [if_neg hread]

theorem next_continued {seq : AppSeqNum} {f : Fragment} (hturn : f.InTurn false (seq + 1)) :
    (due seq).next (.continued f) = some (.behind f) := by
  show (if f.InTurn false (seq + 1) then some (Reading.behind f) else none) = _
  rw [if_pos hturn]

theorem next_confirmed_unsol (r : Reading) {control : AppControlField} {cleared : List Nat}
    (huns : control.UNS = true) : r.next (.confirmed control cleared) = some r := by
  show (if control.UNS then some r else _) = _
  rw [if_pos huns]

theorem next_confirmed_final {control : AppControlField} {cleared : List Nat}
    (huns : control.UNS = false) :
    (awaiting control.SEQ true).next (.confirmed control cleared) = some .idle := by
  show (if control.UNS then _ else if control.SEQ = control.SEQ then some Reading.idle else none) = _
  rw [if_neg (Bool.eq_false_iff.mp huns), if_pos rfl]

theorem next_confirmed_due {control : AppControlField} {cleared : List Nat}
    (huns : control.UNS = false) :
    (due control.SEQ).next (.confirmed control cleared) = some (.due control.SEQ) := by
  show (if control.UNS then _ else if control.SEQ = control.SEQ then
    some (due control.SEQ) else none) = _
  rw [if_neg (Bool.eq_false_iff.mp huns), if_pos rfl]

/-! ### Whole runs -/

/-- What is known after all effects, if they were such as may happen. -/
def follow (log : List Effect) : Option Reading := log.foldlM next .idle

theorem follow_append (log effects : List Effect) :
    follow (log ++ effects) = (follow log).bind fun r => effects.foldlM next r :=
  List.foldlM_append ..

theorem follow_note (log : List Effect) (e : Effect) :
    follow (log ++ [e]) = (follow log).bind fun r => r.next e := by
  rw [follow_append]
  congr 1
  funext r
  rw [List.foldlM_cons]
  cases r.next e <;> rfl

/-- The effects of handlers of requests are of no interest. -/
theorem next_of_handling (r : Reading) {e : Effect} (h : e.isHandling = true) :
    r.next e = some r := by
  cases e <;> first | rfl | cases h

theorem foldlM_next_of_forall {effects : List Effect} (r : Reading)
    (h : ∀ e ∈ effects, r.next e = some r) : effects.foldlM next r = some r := by
  induction effects with
  | nil => rfl
  | cons e effects ih =>
    rw [List.foldlM_cons, h e List.mem_cons_self]
    exact ih fun e' he' => h e' (List.mem_cons_of_mem e he')

end Reading

/-! ## What a READ selects -/

namespace ReadHandler

/-- What a header selects in the event buffer, and how many records at most. -/
def eventsOf : ObjectHeader → Option (EventBuffer.EventSelection × UInt32)
  | .allObjects record =>
    match record.type with
    | .event => (EventBuffer.eventSelection record.enumeration).map fun s => (s, 2 ^ 32 - 1)
    | _ => none
  | .count record count =>
    (EventBuffer.eventSelection record.enumeration).map fun s => (s, count.toUInt32)
  | _ => none

/-- A header selects no record that is selected. -/
def SelectsFresh (h : ReadHandler) (header : ObjectHeader) : Prop :=
  ∀ s ∈ eventsOf header, h.eventBuffer.Fresh s.1 s.2.toNat

instance (b : EventBuffer) (s : EventBuffer.EventSelection) (max : Nat) :
    Decidable (b.Fresh s max) :=
  inferInstanceAs (Decidable (∀ r ∈ _, _))

instance (h : ReadHandler) (header : ObjectHeader) : Decidable (h.SelectsFresh header) :=
  inferInstanceAs (Decidable (∀ s ∈ eventsOf header, h.eventBuffer.Fresh s.1 s.2.toNat))

/-- The handler after a header. -/
def onHeader (h : ReadHandler) (header : ObjectHeader) : ReadHandler := (processHeader 0 h header).1

theorem state_onHeaders (h : ReadHandler) (headers : List ObjectHeader) :
    (APDUHandler.onHeaders processHeader h headers).state = run onHeader h headers := by
  suffices ∀ a : APDUHandler ReadHandler,
      (headers.foldl (APDUHandler.onHeader processHeader) a).state =
        run onHeader a.state headers from
    this (.initial h)
  induction headers with
  | nil => exact fun _ => rfl
  | cons header headers ih => exact fun a => ih _

/-- Both databases are as they should be. -/
structure Exact (h : ReadHandler) : Prop where
  events : h.eventBuffer.Exact
  static : ∀ t, h.database.Covered t

theorem Exact.static_header {h : ReadHandler} (hexact : h.Exact) (header : StaticHeader) :
    Exact { h with database := h.database.processHeader header } :=
  ⟨hexact.events, fun t => (h.database.processHeader_selects header).covered t (hexact.static t)⟩

theorem Exact.onHeader {h : ReadHandler} (hexact : h.Exact) (header : ObjectHeader)
    (hfresh : h.SelectsFresh header) : (h.onHeader header).Exact := by
  unfold ReadHandler.onHeader processHeader
  split
  next record =>
    rw [SelectsFresh, eventsOf] at hfresh
    split
    · exact hexact.static_header (.all record.enumeration)
    next htype =>
      rw [htype] at hfresh
      refine ⟨hexact.events.selectMaxCount _ _ fun s hs => ?_, hexact.static⟩
      exact hfresh (s, 2 ^ 32 - 1) (Option.mem_map_of_mem _ hs)
    · exact hexact
  next record range => exact hexact.static_header (.range record.enumeration range)
  next record count =>
    refine ⟨hexact.events.selectMaxCount _ _ fun s hs => ?_, hexact.static⟩
    exact hfresh (s, count.toUInt32) (Option.mem_map_of_mem _ hs)
  · exact hexact

end ReadHandler

/-- The record that is discarded for an event. -/
def EventBuffer.discardedFor (b : EventBuffer) (evt : EventUpdate) : Option SOERecord :=
  let maxForType := b.config.getMaxEventsForType evt.type
  if maxForType > 0 ∧
      ((b.totalCounts.numOfType evt.type).toNat ≥ maxForType.toNat ∨ b.events.isFull = true) then
    b.records.find? fun r => r.type == evt.type
  else none

/-- Every other record stays. -/
theorem EventBuffer.mem_updateAny_of_mem {b : EventBuffer} {evt : EventUpdate} {r : SOERecord}
    (hr : r ∈ b.records) (hkept : b.discardedFor evt ≠ some r) : r ∈ (b.updateAny evt).records := by
  rw [discardedFor] at hkept
  unfold updateAny
  dsimp only at hkept ⊢
  split
  next hpos =>
    split
    next hfull =>
      rw [if_pos ⟨hpos, hfull⟩] at hkept
      refine mem_addRecord_of_mem _ ?_
      rw [records_removeOldestEventOfType]
      change r ∈ b.records.eraseP fun r => r.type == evt.type
      by_cases hmatch : (r.type == evt.type) = true
      · obtain ⟨d, l₁, l₂, hl₁, hd, hrecords, herase⟩ :=
          List.exists_of_eraseP (p := fun r' => r'.type == evt.type) hr hmatch
        have hfind : b.records.find? (fun r => r.type == evt.type) = some d := by
          rw [hrecords, List.find?_append, List.find?_eq_none.mpr fun x hx => hl₁ x hx,
            Option.none_or, List.find?_cons, hd]
        rw [hfind] at hkept
        rw [herase]
        rw [hrecords, List.mem_append, List.mem_cons] at hr
        rcases hr with hfront | rfl | hback
        · exact List.mem_append_left _ hfront
        · exact absurd rfl hkept
        · exact List.mem_append_right _ hback
      · exact (List.mem_eraseP_of_neg (p := fun r => r.type == evt.type) hmatch).mpr hr
    next => exact mem_addRecord_of_mem _ hr
  next => exact hr

namespace OContext

variable {W : Type} {cb : Callbacks W}

/-! ## When nothing disturbs a response -/

/-- The request in a fragment, if it is one that is not ignored. -/
def requestOf (fragment : List UInt8) : Option (APDUHeader × List UInt8) :=
  match APDUHeaderParser.parseRequest fragment with
  | some header =>
    if !header.control.isFirAndFin || header.control.CON then none
    else some (header, fragment.drop 2)
  | none => none

/-- The request that an action takes up. -/
def requestTaken (s : OContext W) : Action W → Option (APDUHeader × List UInt8)
  | .parse fragment => if s.isTransmitting then none else requestOf fragment
  | .transmitted =>
    if s.isOnline && s.deferred.isSet then some (s.deferred.header, s.deferred.objects) else none
  | .checkForDeferredRequest =>
    if s.canTransmit && s.deferred.isSet then some (s.deferred.header, s.deferred.objects) else none
  | _ => none

/-- A request is a READ that is answered at once. -/
def answersRead (s : OContext W) (header : APDUHeader) (objects : List UInt8) : Bool :=
  header.function == .read && !header.control.UNS && !s.isRepeat header objects &&
    s.sol.pState == .idle && s.unsol.isIdle

/-- No header of a READ selects a record that an earlier one has selected. -/
def readSelectsFresh (s : OContext W) (objects : List UInt8) : Prop :=
  Throughout ReadHandler.onHeader ReadHandler.SelectsFresh
    ⟨s.database.unselect, s.eventBuffer.unselect⟩
    (APDUParser.parse objects false ReadHandler.isAllowed).2

/-- The confirm of a fragment that is not the final one is awaited. -/
def awaitsMore (s : OContext W) : Bool := s.sol.pState == .confirmWait && s.hasSelection

/-- The confirm is the one that is awaited. -/
def isAwaited (s : OContext W) (header : APDUHeader) : Bool :=
  header.function == .confirm && !header.control.UNS &&
    s.sol.seq.confirmNum == header.control.SEQ

/-- The confirm that is awaited has come in and is kept for later. -/
def confirmDeferred (s : OContext W) : Bool := s.deferred.isSet && s.isAwaited s.deferred.header

/-- Whether something is selected stays the same: an update discards another event than the last one
that is selected, and unsolicited responses and their timeouts, which unselect all events, find
static data selected or leave events selected exactly when some were selected before. -/
def keepsSelection (s : OContext W) : Action W → Prop
  | .updatePoint u =>
    s.hasSelection = true → s.database.hasAnySelection = true ∨
      ∃ r ∈ s.eventBuffer.records, EventWriter.isWritable r = true ∧
        (s.database.update u.type u.value u.index u.mode).2.1.bind s.eventBuffer.discardedFor ≠
          some r
  | .checkForUnsolicited =>
    s.willSendEvents = true → s.database.hasAnySelection = true ∨
      (s.loadUnsolicited s.unsol.tx.start.getWriter).1.eventBuffer.hasAnySelection =
        s.eventBuffer.hasAnySelection
  | .expire =>
    s.confirmTimer.any (fun timer => timer.action == .unsolicited) = true →
      s.unsol.pState = .confirmWait →
        s.database.hasAnySelection = true ∨ s.eventBuffer.hasAnySelection = false
  | _ => True

/-- A confirm that is kept for later is not replaced, and its timer does not expire before it is
taken up. -/
def keepsConfirm (s : OContext W) : Action W → Prop
  | .parse fragment =>
    ∀ q ∈ requestOf fragment, q.1.function.isNoAckFuncCode = true ∨ s.isAwaited q.1 = true
  | .expire => s.confirmTimer.all (fun timer => timer.action == .unsolicited) = true
  | _ => True

/-- An action does not disturb the response to a READ. -/
structure Undisturbed (s : OContext W) (a : Action W) : Prop where
  fresh : ∀ q ∈ s.requestTaken a, s.answersRead q.1 q.2 = true → s.readSelectsFresh q.2
  counted : s.awaitsMore = true → s.fragmentCount ≠ 0
  kept : s.sol.pState = .confirmWait → s.keepsSelection a
  confirmed : s.awaitsMore = true → s.confirmDeferred = true → s.keepsConfirm a

instance (s : OContext W) : (a : Action W) → Decidable (s.keepsSelection a)
  | .updatePoint _ => inferInstanceAs (Decidable (_ → _ ∨ ∃ r ∈ s.eventBuffer.records, _))
  | .checkForUnsolicited => inferInstanceAs (Decidable (_ → _ ∨ _ = _))
  | .expire => inferInstanceAs (Decidable (_ → _ → _ ∨ _))
  | .goOnline | .goOffline | .transmitted | .parse _ | .checkForDeferredRequest
  | .setRestartIIN | .elapse _ | .surroundings _ => isTrue trivial

instance (s : OContext W) : (a : Action W) → Decidable (s.keepsConfirm a)
  | .parse fragment => inferInstanceAs (Decidable (∀ q ∈ requestOf fragment, _))
  | .expire => inferInstanceAs (Decidable (_ = true))
  | .goOnline | .goOffline | .transmitted | .updatePoint _ | .checkForDeferredRequest
  | .checkForUnsolicited | .setRestartIIN | .elapse _ | .surroundings _ => isTrue trivial

instance (s : OContext W) (objects : List UInt8) : Decidable (s.readSelectsFresh objects) :=
  inferInstanceAs (Decidable (Throughout _ _ _ _))

instance (s : OContext W) (a : Action W) : Decidable (s.Undisturbed a) :=
  decidable_of_iff
    ((∀ q ∈ s.requestTaken a, s.answersRead q.1 q.2 = true → s.readSelectsFresh q.2) ∧
      (s.awaitsMore = true → s.fragmentCount ≠ 0) ∧
      (s.sol.pState = .confirmWait → s.keepsSelection a) ∧
      (s.awaitsMore = true → s.confirmDeferred = true → s.keepsConfirm a))
    ⟨fun h => ⟨h.1, h.2.1, h.2.2.1, h.2.2.2⟩,
      fun h => ⟨h.fresh, h.counted, h.kept, h.confirmed⟩⟩

end OContext
end Outstation
end Dnp3
