import Dnp3.Outstation.ConfirmTimeout

/-!
# Deferred requests

A request that comes in while a response is being transmitted is kept and taken up afterwards.  If
the outstation then waits for the confirm of that response, the request ends the wait and is to be
kept once more; but whether it is kept is decided after its handler has kept it, so it is lost.

In a run no deferred request is lost if and only if none is taken up that ends a wait.

`KeepsDeferred` says of an action that it loses no deferred request: one that is no longer set has
been answered, answered again, ignored or consumed (`Disposed`), and one that has to wait is still
set.  The proof goes through the ways in which a deferred request is taken up; all of them keep it
but the one that `endsWait` describes.  `deferred_kept` states both directions for whole runs, and
the run at the end of the module is the shortest in which a request is lost.
-/

namespace Dnp3
namespace Outstation

open App Library

namespace OContext

variable {W : Type} {cb : Callbacks W}

/-- What has become of a deferred request that is no longer set. -/
inductive Disposed (cb : Callbacks W) (s s' : OContext W) : Prop where
  /-- It was executed, and the response is being transmitted. -/
  | executed (effects : List Effect) (fragment : Fragment)
      (hlog : s'.log = s.log ++ effects ++
        [.responded s.deferred.header s.deferred.objects fragment])
      (htx : s'.isTransmitting = true) : Disposed cb s s'
  | confirm (hfunction : s.deferred.header.function = .confirm)
      (h : s' = (s.processConfirm cb s.deferred.header).clearDeferred) : Disposed cb s s'
  /-- It is ignored, for it says that it is unsolicited. -/
  | unsolicited (hfunction : s.deferred.header.function ≠ .confirm)
      (huns : s.deferred.header.control.UNS = true) (h : s' = s.clearDeferred) : Disposed cb s s'
  /-- A READ that is repeated is ignored; another request is answered again. -/
  | repeated (hfunction : s.deferred.header.function ≠ .confirm)
      (hrepeat : s.isRepeat s.deferred.header s.deferred.objects = true)
      (h : s' = s.clearDeferred ∨ s' = (s.beginTx.note (.repeated s.deferred.header
        s.deferred.objects s.sol.tx.getLastResponse)).clearDeferred) : Disposed cb s s'

/-- The deferred request is a new one. -/
def defersNew (s : OContext W) : Bool :=
  s.canTransmit && s.deferred.isSet && s.deferred.header.function != .confirm &&
    !s.deferred.header.control.UNS && !s.isRepeat s.deferred.header s.deferred.objects

/-- The deferred request is taken up, and ends the wait for a confirm. -/
def endsWait (s : OContext W) : Bool :=
  s.defersNew && s.sol.pState == .confirmWait &&
    (s.deferred.header.function != .read || s.unsol.isIdle)

/-- No deferred request gets lost: one that is no longer set was disposed of, and one that has to
wait again is kept as it is. -/
structure KeepsDeferred (cb : Callbacks W) (s s' : OContext W) : Prop where
  disposed : s.deferred.isSet = true → s'.deferred.isSet = false → Disposed cb s s'
  waits : s.defersNew = true → s.sol.pState = .confirmWait →
    s'.deferred.isSet = true ∧ s'.deferred.header = s.deferred.header ∧
      s'.deferred.objects = s.deferred.objects

/-- The state in which an action takes up a deferred request. -/
def beforeDeferred (s : OContext W) : Action W → OContext W
  | .transmitted => { s with isTransmitting := false }
  | _ => s

/-- The action takes up a deferred request. -/
def Action.takesDeferred : Action W → Bool
  | .transmitted => true
  | .checkForDeferredRequest => true
  | _ => false

/-- No deferred request that has to wait again is taken up. -/
def SparesWaits (s : OContext W) (a : Action W) : Prop :=
  a.takesDeferred = true → (s.beforeDeferred a).endsWait = false

/-! ## Requests that stay set -/

/-- A repeated request is not executed while a solicited confirm is awaited: then the last request
was a READ. -/
theorem Remembers.not_waiting {s : OContext W} (h : Remembers s) {header : APDUHeader}
    {objects : List UInt8} (hrepeat : s.isRepeat header objects = true)
    (hread : header.function ≠ .read) : s.sol.pState = .idle := by
  cases hsol : s.sol.pState with
  | idle => rfl
  | confirmWait =>
    obtain ⟨p, hp, hlooks⟩ := (h.isRepeat_iff header objects).mp hrepeat
    obtain ⟨p', hp', hread'⟩ := h.waiting hsol
    rw [hp] at hp'
    cases hp'
    rw [hlooks.header] at hread'
    exact absurd hread' hread

variable {s s' : OContext W}

theorem isSet_takesRequest {header : APDUHeader} {objects : List UInt8}
    (ht : TakesRequest cb s header objects s') (h : s.deferred.isSet = true) :
    s'.deferred.isSet = true := by
  cases ht with
  | read huns hnew hread hsol hunsol =>
    obtain ⟨r, -, -, -, heq⟩ := @respondToReadRequest_state W cb (s.withSeq header) header objects
    rw [heq]
    exact h
  | nonRead huns hnew hread hsol =>
    obtain ⟨s₁, tx, hs₁, heq⟩ := @respondToNonReadRequest_eq W cb (s.withSeq header) header objects
    rw [heq]
    obtain ⟨world, staticIIN, control, database, mask, effects, rfl, -, -, -⟩ := hs₁
    exact h
  | repeatedWaiting huns hrepeat hread hsol => rfl
  | abandons huns hnew hsol => rfl
  | defersRead huns hnew hread hsol hunsol => rfl
  | _ => exact h

theorem isSet_takesConfirm {header : APDUHeader} (ht : TakesConfirm cb s header s')
    (h : s.deferred.isSet = true) : s'.deferred.isSet = true := by
  cases ht with
  | more huns hsol hseq hselection =>
    obtain ⟨r, -, -, -, heq⟩ := @continueMultiFragResponse_state W cb
      (s.takeConfirm header.control) (header.control.SEQ + 1)
    rw [heq]
    exact h
  | _ => exact h

theorem isSet_takesFragment (ht : TakesFragment cb s s') (h : s.deferred.isSet = true) :
    s'.deferred.isSet = true := by
  cases ht with
  | ignored => exact h
  | noAck world => exact h
  | deferred header objects htx => rfl
  | confirm header htx hfunction hc =>
    exact isSet_takesConfirm (s := s.note (.confirmReceived header.control)) hc h
  | request header objects htx hfunction hr => exact isSet_takesRequest hr h

/-- Only an action that takes up a deferred request, or the end of the connection, unsets it. -/
theorem isSet_perform {a : Action W} (ha : a.takesDeferred = false) (hdown : a ≠ .goOffline)
    (h : s.deferred.isSet = true) : (s.perform cb a).deferred.isSet = true := by
  cases a with
  | goOffline => exact absurd rfl hdown
  | transmitted => cases ha
  | checkForDeferredRequest => cases ha
  | parse fragment => exact isSet_takesFragment (s.takesFragment fragment) h
  | expire =>
    have hexpires := s.expires
    simp only [perform]
    generalize s.expireTimer = s' at hexpires ⊢
    cases hexpires <;> exact h
  | updatePoint u =>
    simp only [perform, updatePoint]
    split <;> exact h
  | checkForUnsolicited =>
    have hsends := @sendsUnsolicited W cb s
    simp only [perform]
    generalize s.checkForUnsolicited cb = s' at hsends ⊢
    cases hsends with
    | nothing hnot => exact h
    | null tx hcan hnull =>
      unfold sendUnsolFrom startUnsolicitedConfirmTimer
      rw [startConfirmTimer_eq]
      exact h
    | events writer tx hcan hnull hevents =>
      unfold sendUnsolFrom startUnsolicitedConfirmTimer
      rw [startConfirmTimer_eq]
      exact h
  | _ => exact h

/-! ## Requests that are taken up -/

theorem endsWait_iff :
    s.endsWait = true ↔ s.defersNew = true ∧ s.sol.pState = .confirmWait ∧
      (s.deferred.header.function = .read → s.unsol.pState = .idle) := by
  rw [endsWait, Bool.and_eq_true, Bool.and_eq_true, beq_iff_eq, and_assoc, Bool.or_eq_true,
    bne_iff_ne, unsol_isIdle, imp_iff_not_or]

theorem defersNew_iff :
    s.defersNew = true ↔ s.canTransmit = true ∧ s.deferred.isSet = true ∧
      s.deferred.header.function ≠ .confirm ∧ s.deferred.header.control.UNS = false ∧
      s.isRepeat s.deferred.header s.deferred.objects = false := by
  simp only [defersNew, Bool.and_eq_true, bne_iff_ne, Bool.not_eq_true', and_assoc]

/-- What is executed is answered, and what is answered again, ignored or consumed is disposed of. -/
theorem keepsDeferred_of_spared (h : Remembers s) (hspares : s.endsWait = false)
    (ht : TakesDeferred cb s s') : KeepsDeferred cb s s' := by
  cases ht with
  | nothing hnot =>
    constructor
    · intro hset hunset
      rw [hset] at hunset
      cases hunset
    · intro hnew _
      obtain ⟨hcan, hset, -⟩ := defersNew_iff.mp hnew
      rw [hnot hcan] at hset
      cases hset
  | waits hset hread hunsol =>
    constructor
    · intro _ hunset
      rw [hset] at hunset
      cases hunset
    · exact fun _ _ => ⟨hset, rfl, rfl⟩
  | confirm hcan hset hfunction hc =>
    constructor
    · exact fun _ _ => .confirm hfunction rfl
    · intro hnew _
      exact absurd hfunction (defersNew_iff.mp hnew).2.2.1
  | request hcan hset hfunction hread hr =>
    have hspared : ∀ huns : s.deferred.header.control.UNS = false,
        s.isRepeat s.deferred.header s.deferred.objects = false → s.sol.pState = .idle := by
      intro huns hnew
      cases hsol : s.sol.pState with
      | idle => rfl
      | confirmWait =>
        have hends := endsWait_iff.mpr
          ⟨defersNew_iff.mpr ⟨hcan, hset, hfunction, huns, hnew⟩, hsol, hread⟩
        rw [hspares] at hends
        cases hends
    constructor
    · rintro - -
      generalize s.processRequest cb s.deferred.header s.deferred.objects = s' at hr ⊢
      cases hr with
      | unsolicited huns => exact .unsolicited hfunction huns rfl
      | repeatedRead huns hrepeat hread' => exact .repeated hfunction hrepeat (.inl rfl)
      | repeated huns hrepeat hread' hsol => exact .repeated hfunction hrepeat (.inr rfl)
      | repeatedWaiting huns hrepeat hread' hsol =>
        rw [h.not_waiting hrepeat hread'] at hsol
        cases hsol
      | abandons huns hnew hsol =>
        rw [hspared huns hnew] at hsol
        cases hsol
      | defersRead huns hnew hread' hsol hunsol =>
        rw [hread hread'] at hunsol
        cases hunsol
      | read huns hnew hread' hsol hunsol =>
        obtain ⟨r, -, -, -, heq⟩ := @respondToReadRequest_state W cb
          (s.withSeq s.deferred.header) s.deferred.header s.deferred.objects
        rw [heq]
        exact .executed [] r.fragment (by rw [List.append_nil]; rfl) rfl
      | nonRead huns hnew hread' hsol =>
        obtain ⟨s₁, tx, hs₁, heq⟩ := @respondToNonReadRequest_eq W cb
          (s.withSeq s.deferred.header) s.deferred.header s.deferred.objects
        rw [heq]
        obtain ⟨world, staticIIN, control, database, mask, effects, rfl, -, -, -⟩ := hs₁
        exact .executed effects _ rfl rfl
    · intro hnew hsol
      obtain ⟨-, -, -, huns, hnot⟩ := defersNew_iff.mp hnew
      rw [hspared huns hnot] at hsol
      cases hsol

/-- A request that ends a wait is lost. -/
theorem not_keepsDeferred (hends : s.endsWait = true) (ht : TakesDeferred cb s s') :
    ¬ KeepsDeferred cb s s' := by
  intro hkeeps
  obtain ⟨hnew, hsol, hidle⟩ := endsWait_iff.mp hends
  have hstays := (hkeeps.waits hnew hsol).1
  obtain ⟨hcan, hset, hfunction, -, -⟩ := defersNew_iff.mp hnew
  cases ht with
  | nothing hnot =>
    rw [hnot hcan] at hset
    cases hset
  | waits _ hread hunsol =>
    rw [hidle hread] at hunsol
    cases hunsol
  | confirm _ _ hfunction' _ => exact hfunction hfunction'
  | request _ _ _ _ _ => cases hstays

/-! ## All runs -/

/-- An action loses no deferred request: only when it takes up the request may this be unset. -/
structure LosesNothing (cb : Callbacks W) (s : OContext W) (a : Action W) : Prop where
  taken : a.takesDeferred = true → KeepsDeferred cb (s.beforeDeferred a) (s.perform cb a)
  stays : a.takesDeferred = false → a ≠ .goOffline → s.deferred.isSet = true →
    (s.perform cb a).deferred.isSet = true

theorem takesDeferred_perform {a : Action W} (ha : a.takesDeferred = true) :
    TakesDeferred cb (s.beforeDeferred a) (s.perform cb a) := by
  cases a with
  | transmitted => exact OContext.takesDeferred _
  | checkForDeferredRequest => exact OContext.takesDeferred _
  | _ => cases ha

theorem losesNothing_iff (h : Remembers s) (a : Action W) :
    LosesNothing cb s a ↔ SparesWaits s a := by
  have hbefore : Remembers (s.beforeDeferred a) := by
    cases a with
    | transmitted => exact h.congr rfl rfl rfl id
    | _ => exact h
  constructor
  · intro hloses ha
    rw [← Bool.not_eq_true]
    intro hends
    exact not_keepsDeferred hends (takesDeferred_perform ha) (hloses.taken ha)
  · intro hspares
    constructor
    · exact fun ha => keepsDeferred_of_spared hbefore (hspares ha) (takesDeferred_perform ha)
    · exact isSet_perform

/-- No action of a run loses a deferred request, if and only if none takes one up that ends the
wait for a confirm. -/
theorem deferred_kept (world : W) (now : Int) (config : EventBufferConfig)
    (database : DatabaseBuffers) (params : OutstationParams) (events : List (Event W)) :
    ActsThroughout cb (LosesNothing cb) (initial world now config database params) events ↔
      ActsThroughout cb SparesWaits (initial world now config database params) events :=
  actsThroughout_iff (fun _ a hs => hs.perform a) (fun _ a hs => losesNothing_iff hs a)
    (.initial world now config database params)

/-- A pulse comes in while the first fragment of the response to a READ is transmitted. -/
def pulsedWhileReading : List (Event Nat) :=
  [.lowerLayerUp, .sendResult true, .receive [0xD0, 0x00], .receive [0xC3, 0x01, 0x14, 0x00, 0x06],
    .receive ([0xC4, 0x05] ++ pulse [100, 0, 0, 0])]

/-- The pulse is neither operated nor kept when the transmission is over. -/
theorem not_deferred_kept :
    ¬ ∀ events, ActsThroughout countingCallbacks (LosesNothing countingCallbacks)
      (twenty smallParams) events := by
  intro h
  have hloses := (h (pulsedWhileReading ++ [Event.sendResult true])).transmitted (by decide +kernel)
    (by decide +kernel)
  have hstays := (hloses.taken rfl).waits (by decide +kernel) (by decide +kernel)
  revert hstays
  decide +kernel

end OContext
end Outstation
end Dnp3
