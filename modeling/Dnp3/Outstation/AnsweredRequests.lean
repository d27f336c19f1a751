import Dnp3.Outstation.RepeatedRequests

/-!
# What an outstation answers

A request that an outstation answers is one that it was given.  It is given a request to process,
and may keep it for later; when it looks for something to do it takes up the request that it has
kept. Nothing else is answered.

The relations go by what can happen to a request.  `Rests` is a step in which no request is answered
and none is kept; `Serves` is one in which the request is answered or kept or dropped; in `TakesUp`
a request that was kept before is answered now.  Every function of the outstation between the
arrival of a fragment and its answer is in one of them, and they compose.  With them
`Secauth.AuthenticatedRequests` shows that an outstation with secure authentication answers only
requests that it was handed after a check.
-/

namespace Dnp3
namespace Outstation

open App

/-- The request that is answered, at once or by the response it had before. -/
def Effect.answered : Effect → Option (APDUHeader × List UInt8)
  | .responded header objects _ => some (header, objects)
  | .repeated header objects _ => some (header, objects)
  | _ => none

/-- The requests that were answered, in order. -/
def answered (log : List Effect) : List (APDUHeader × List UInt8) := log.filterMap Effect.answered

@[simp] theorem answered_append (log entries : List Effect) :
    answered (log ++ entries) = answered log ++ answered entries := List.filterMap_append ..

/-- Entries that answer nothing. -/
theorem answered_eq_nil {entries : List Effect} (h : ∀ e ∈ entries, e.answered = none) :
    answered entries = [] := List.filterMap_eq_nil_iff.mpr h

theorem Effect.answered_of_isHandling {e : Effect} (h : e.isHandling = true) :
    e.answered = none := by
  cases e with
  | responded | repeated => cases h
  | _ => rfl

namespace OContext

variable {W : Type} {cb : Callbacks W} {s s' s'' : OContext W}

/-- No request is answered or kept. -/
structure Rests (s s' : OContext W) : Prop where
  now : s'.now = s.now
  online : s'.isOnline = s.isOnline
  answered : answered s'.log = answered s.log
  deferred : s'.deferred = s.deferred

/-- The request is answered or kept, or nothing is done. -/
structure Serves (header : APDUHeader) (objects : List UInt8) (s s' : OContext W) : Prop where
  now : s'.now = s.now
  online : s'.isOnline = s.isOnline
  answered : Outstation.answered s'.log = Outstation.answered s.log ∨
    Outstation.answered s'.log = Outstation.answered s.log ++ [(header, objects)]
  deferred : s'.deferred = s.deferred ∨ s'.deferred = s.deferred.set header objects

namespace Rests

theorem refl (s : OContext W) : Rests s s := ⟨rfl, rfl, rfl, rfl⟩

theorem trans (h : Rests s s') (h' : Rests s' s'') : Rests s s'' where
  now := h'.now.trans h.now
  online := h'.online.trans h.online
  answered := h'.answered.trans h.answered
  deferred := h'.deferred.trans h.deferred

theorem serves (h : Rests s s') (header : APDUHeader) (objects : List UInt8) :
    Serves header objects s s' := ⟨h.now, h.online, .inl h.answered, .inl h.deferred⟩

/-- Entries that answer nothing are added. -/
theorem append (hnow : s'.now = s.now) (honline : s'.isOnline = s.isOnline)
    {entries : List Effect} (hlog : s'.log = s.log ++ entries)
    (hentries : ∀ e ∈ entries, e.answered = none) (hdeferred : s'.deferred = s.deferred) :
    Rests s s' :=
  ⟨hnow, honline, by rw [hlog, answered_append, answered_eq_nil hentries, List.append_nil],
    hdeferred⟩

/-- One entry that answers nothing is added. -/
theorem note (hnow : s'.now = s.now) (honline : s'.isOnline = s.isOnline) {e : Effect}
    (hlog : s'.log = s.log ++ [e]) (he : e.answered = none) (hdeferred : s'.deferred = s.deferred) :
    Rests s s' :=
  append hnow honline hlog (fun _ h => by rw [List.mem_singleton.mp h]; exact he) hdeferred

theorem updatePoint (s : OContext W) (u : DatabaseBuffers.PointUpdate) :
    Rests s (s.updatePoint u) := by
  unfold OContext.updatePoint
  split
  · refine append rfl rfl rfl (fun e he => ?_) rfl
    obtain ⟨id, -, rfl⟩ := List.mem_map.mp he
    rfl
  · exact ⟨rfl, rfl, rfl, rfl⟩

theorem updates (s : OContext W) (updates : List DatabaseBuffers.PointUpdate) :
    Rests s (updates.foldl OContext.updatePoint s) := by
  induction updates generalizing s with
  | nil => exact refl s
  | cons u updates ih => exact (updatePoint s u).trans (ih (s.updatePoint u))

theorem takesConfirm {header : APDUHeader} (ht : TakesConfirm cb s header s') : Rests s s' := by
  cases ht with
  | ignoredSol | ignoredUnsol => exact refl s
  | last huns hsol hseq hselection => exact note rfl rfl rfl rfl rfl
  | more huns hsol hseq hselection =>
    obtain ⟨r, -, -, -, heq⟩ := @continueMultiFragResponse_state W cb (s.takeConfirm header.control)
      (header.control.SEQ + 1)
    rw [heq]
    have htaken : Rests s (s.takeConfirm header.control) := note rfl rfl rfl rfl rfl
    exact htaken.trans (note rfl rfl rfl rfl rfl)
  | null huns hunsol hseq hnull => exact ⟨rfl, rfl, rfl, rfl⟩
  | events huns hunsol hseq hnull => exact note rfl rfl rfl rfl rfl

theorem expires (he : Expires s s') : Rests s s' := by
  cases he with
  | inactive htimer => exact refl s
  | solicited timeout htimer hsol => exact note rfl rfl rfl rfl rfl
  | unsolicited timeout htimer hunsol => exact ⟨rfl, rfl, rfl, rfl⟩
  | unexpected timer htimer hsol hunsol => exact ⟨rfl, rfl, rfl, rfl⟩

theorem sendUnsolFrom (s : OContext W) (tx : TxBuffer) (fragment : Fragment) :
    Rests s ((s.sendUnsolFrom tx).note (.unsolicited fragment)) := by
  unfold OContext.sendUnsolFrom startUnsolicitedConfirmTimer
  rw [startConfirmTimer_eq]
  exact note rfl rfl rfl rfl rfl

theorem sendsUnsolicited (hs : SendsUnsolicited cb s s') : Rests s s' := by
  cases hs with
  | nothing => exact refl s
  | null tx hcan hnull => exact sendUnsolFrom s tx _
  | events writer tx hcan hnull hevents =>
    have hloaded : Rests s (s.loadUnsolicited writer).1 := ⟨rfl, rfl, rfl, rfl⟩
    exact hloaded.trans (sendUnsolFrom _ tx _)

end Rests

/-- A request that is taken up is answered, kept or dropped. -/
theorem serves_takesRequest {header : APDUHeader} {objects : List UInt8}
    (ht : TakesRequest cb s header objects s') : Serves header objects s s' := by
  cases ht with
  | unsolicited | repeatedRead => exact (Rests.refl s).serves header objects
  | repeated huns hrepeat hread hsol =>
    exact ⟨rfl, rfl, .inr (answered_append _ _), .inl rfl⟩
  | repeatedWaiting huns hrepeat hread hsol => exact ⟨rfl, rfl, .inl rfl, .inr rfl⟩
  | abandons huns hnew hsol =>
    exact ⟨rfl, rfl, .inl ((answered_append _ _).trans (List.append_nil _)), .inr rfl⟩
  | defersRead huns hnew hread hsol hunsol => exact ⟨rfl, rfl, .inl rfl, .inr rfl⟩
  | read huns hnew hread hsol hunsol =>
    obtain ⟨r, -, -, -, heq⟩ := @respondToReadRequest_state W cb (s.withSeq header) header objects
    rw [heq]
    exact ⟨rfl, rfl, .inr (answered_append _ _), .inl rfl⟩
  | nonRead huns hnew hread hsol =>
    obtain ⟨s₁, tx, hs₁, heq⟩ := @respondToNonReadRequest_eq W cb (s.withSeq header) header objects
    rw [heq]
    obtain ⟨world, staticIIN, control, database, mask, effects, rfl, -, -, heffects⟩ := hs₁
    have hlog : answered (s.log ++ effects) = answered s.log := by
      rw [answered_append, answered_eq_nil fun e he => Effect.answered_of_isHandling (heffects e he),
        List.append_nil]
    refine ⟨rfl, rfl, .inr ?_, .inl rfl⟩
    rw [← hlog]
    exact answered_append _ _

/-- A fragment is answered, kept or dropped. -/
theorem serves_processAPDU (s : OContext W) (header : APDUHeader) (objects : List UInt8) :
    Serves header objects s (s.processAPDU cb header objects) := by
  unfold processAPDU
  split
  · obtain ⟨world, hworld⟩ := @processRequestNoAck_state W cb s header objects
    rw [hworld]
    exact ⟨rfl, rfl, .inl rfl, .inl rfl⟩
  · dsimp only
    have hnoted : Rests s (s.noteConfirm header) := by
      unfold noteConfirm
      split
      · exact Rests.note rfl rfl rfl rfl rfl
      · exact Rests.refl s
    generalize s.noteConfirm header = s₁ at hnoted ⊢
    suffices h : Serves header objects s₁ (if s₁.isTransmitting = true then s₁.defer header objects
        else if header.function = .confirm then s₁.processConfirm cb header
        else s₁.processRequest cb header objects) by
      refine ⟨h.now.trans hnoted.now, h.online.trans hnoted.online, ?_, ?_⟩
      · rw [← hnoted.answered]
        exact h.answered
      · rw [← hnoted.deferred]
        exact h.deferred
    split
    · exact ⟨rfl, rfl, .inl rfl, .inr rfl⟩
    · split
      · exact (Rests.takesConfirm (s₁.takesConfirm header)).serves header objects
      · exact serves_takesRequest (s₁.takesRequest header objects)

/-- What is answered when the outstation looks for something to do was kept, and what is kept was
kept before. -/
structure TakesUp (s s' : OContext W) : Prop where
  now : s'.now = s.now
  online : s'.isOnline = s.isOnline
  answered : ∀ p ∈ Outstation.answered s'.log, p ∈ Outstation.answered s.log ∨
    s.deferred.isSet = true ∧ p = (s.deferred.header, s.deferred.objects)
  deferred : s'.deferred.isSet = true → s'.deferred = s.deferred

theorem Rests.takesUp (h : Rests s s') : TakesUp s s' :=
  ⟨h.now, h.online, fun p hp => .inl (by rwa [← h.answered]), fun _ => h.deferred⟩

theorem TakesUp.rests (h : TakesUp s s') (h' : Rests s' s'') : TakesUp s s'' where
  now := h'.now.trans h.now
  online := h'.online.trans h.online
  answered p hp := h.answered p (by rwa [← h'.answered])
  deferred hset := by
    rw [h'.deferred] at hset ⊢
    exact h.deferred hset

/-- A deferred request that is taken up was kept before. -/
theorem takesUp_takesDeferred (ht : TakesDeferred cb s s') : TakesUp s s' := by
  cases ht with
  | nothing _ => exact (Rests.refl s).takesUp
  | waits hset hread hunsol => exact (Rests.refl s).takesUp
  | confirm hcan hset hfunction hc =>
    have hrests := Rests.takesConfirm hc
    exact ⟨hrests.now, hrests.online, fun p hp => .inl (by rwa [← hrests.answered]),
      fun hfalse => by cases hfalse⟩
  | request hcan hset hfunction hread hr =>
    have hserves := serves_takesRequest hr
    refine ⟨hserves.now, hserves.online, fun p hp => ?_, fun hfalse => by cases hfalse⟩
    have hp' : p ∈ answered (s.processRequest cb s.deferred.header s.deferred.objects).log := hp
    rcases hserves.answered with hsame | hmore
    · rw [hsame] at hp'
      exact .inl hp'
    · rw [hmore, List.mem_append, List.mem_singleton] at hp'
      exact hp'.imp id fun h => ⟨hset, h⟩

theorem takesUp_checkForTaskStart (s : OContext W) : TakesUp s (s.checkForTaskStart cb) :=
  (takesUp_takesDeferred s.takesDeferred).rests (Rests.sendsUnsolicited
    (sendsUnsolicited (s.checkForDeferredRequest cb)))

end OContext
end Outstation
end Dnp3
