import Dnp3.Asiodnp3.RouterFrames
import Mathlib.Data.List.Nodup

/-!
# The sessions of a router

The router breaks what its observer allows when a context leaves (it is disabled or removed) while
the router holds a frame of it and stays open for another context, and when an enabled context is
removed while the channel is still up but about to close.  In every other run the observer accepts
the log: contexts go up and down with their records and the layer, the monitor and the layer agree,
and a frame that is not live is in a queue of a layer that is closing.
-/

namespace Dnp3
namespace Asiodnp3

open Library Link

variable {κ : Type} [DecidableEq κ]

namespace LinkLayerRouter

/-! ## When contexts may leave -/

/-- The router holds no frame of the context, or it does not stay open without it. -/
def CanLeave (s : LinkLayerRouter κ) (c : κ) : Prop :=
  (∀ tx ∈ s.transmitQueue, tx.pContext ≠ c) ∨ s.pPhys.isClosing = true ∨
    ∀ rec ∈ s.records, rec.enabled = true → rec.pContext = c

instance (s : LinkLayerRouter κ) (c : κ) : Decidable (s.CanLeave c) :=
  inferInstanceAs (Decidable (_ ∨ _ ∨ _))

/-- The channel is not up in a state of the monitor in which it is about to close, or the context
is not enabled. -/
def CanBeRemoved (s : LinkLayerRouter κ) (c : κ) : Prop :=
  s.isOnline = true → s.mpState.getState = .opened ∨
    ∀ rec ∈ s.records, rec.pContext = c → rec.enabled = false

instance (s : LinkLayerRouter κ) (c : κ) : Decidable (s.CanBeRemoved c) :=
  inferInstanceAs (Decidable (_ → _ ∨ _))

/-- Contexts leave in order. -/
def Orderly (s : LinkLayerRouter κ) : Event κ → Prop
  | .disable c => s.CanLeave c
  | .remove c => s.CanLeave c ∧ s.CanBeRemoved c
  | _ => True

instance (s : LinkLayerRouter κ) (e : Event κ) : Decidable (s.Orderly e) := by
  cases e <;> unfold Orderly <;> infer_instance

/-! ## The layer opens and closes -/

/-- All enabled contexts of some records come up. -/
theorem Coherent.foldl_lowerLayerUp {s : LinkLayerRouter κ} (h : s.Coherent)
    (frames : κ → List Link.Format) (recs : List (Record κ))
    (hdistinct : (recs.map (·.pContext)).Nodup)
    (hregistered : ∀ rec ∈ recs, s.hasContext rec.pContext = true)
    (hdown : ∀ rec ∈ recs, (s.sessions rec.pContext).isOnline = false) :
    let t := recs.foldl (fun s rec =>
      if rec.enabled then s.lowerLayerUp rec.pContext (frames rec.pContext) else s) s
    t.Coherent ∧ s.Framed t ∧ ∀ c, (t.sessions c).isOnline = true ↔
      (s.sessions c).isOnline = true ∨
        ∃ rec ∈ recs, rec.pContext = c ∧ rec.enabled = true := by
  induction recs generalizing s with
  | nil => exact ⟨h, .refl s, fun c => by simp⟩
  | cons rec recs ih =>
    rw [List.map_cons, List.nodup_cons] at hdistinct
    have hrest : ∀ rec' ∈ recs, rec'.pContext ≠ rec.pContext := fun rec' hrec' hc =>
      hdistinct.1 (List.mem_map.mpr ⟨rec', hrec', hc⟩)
    simp only [List.foldl_cons]
    by_cases henabled : rec.enabled = true
    · rw [if_pos henabled]
      have hfirst := h.lowerLayerUp (frames rec.pContext) (hregistered rec List.mem_cons_self)
        (hdown rec List.mem_cons_self)
      have hframed := framed_lowerLayerUp s rec.pContext (frames rec.pContext)
      obtain ⟨hcoherent, hframed', honline⟩ := ih hfirst hdistinct.2
        (fun rec' hrec' => (hframed.hasContext _).trans
          (hregistered rec' (List.mem_cons_of_mem _ hrec')))
        (fun rec' hrec' => Bool.eq_false_iff.mpr fun hon => by
          rcases (online_lowerLayerUp s _ _ _).mp hon with hc | hon
          · exact hrest rec' hrec' hc
          · rw [hdown rec' (List.mem_cons_of_mem _ hrec')] at hon
            cases hon)
      refine ⟨hcoherent, hframed.trans hframed', fun c => ?_⟩
      rw [honline, online_lowerLayerUp]
      simp only [List.exists_mem_cons_iff, henabled, and_true]
      grind
    · rw [if_neg henabled]
      obtain ⟨hcoherent, hframed', honline⟩ := ih h hdistinct.2
        (fun rec' hrec' => hregistered rec' (List.mem_cons_of_mem _ hrec'))
        (fun rec' hrec' => hdown rec' (List.mem_cons_of_mem _ hrec'))
      refine ⟨hcoherent, hframed', fun c => ?_⟩
      rw [honline]
      simp only [List.exists_mem_cons_iff, henabled, and_false, false_or, Bool.false_eq_true]

/-- All enabled contexts of some records go down, when no frame is left. -/
theorem Coherent.foldl_lowerLayerDown {s : LinkLayerRouter κ} (h : s.Coherent)
    (recs : List (Record κ)) (hdistinct : (recs.map (·.pContext)).Nodup)
    (hempty : s.transmitQueue = [])
    (hup : ∀ rec ∈ recs, rec.enabled = true → (s.sessions rec.pContext).isOnline = true) :
    let t := recs.foldl (fun s rec =>
      if rec.enabled then s.lowerLayerDown rec.pContext else s) s
    t.Coherent ∧ s.Framed t ∧ ∀ c, (t.sessions c).isOnline = true ↔
      (s.sessions c).isOnline = true ∧
        ∀ rec ∈ recs, rec.pContext = c → rec.enabled = false := by
  induction recs generalizing s with
  | nil => exact ⟨h, .refl s, fun c => by simp⟩
  | cons rec recs ih =>
    rw [List.map_cons, List.nodup_cons] at hdistinct
    have hrest : ∀ rec' ∈ recs, rec'.pContext ≠ rec.pContext := fun rec' hrec' hc =>
      hdistinct.1 (List.mem_map.mpr ⟨rec', hrec', hc⟩)
    simp only [List.foldl_cons]
    by_cases henabled : rec.enabled = true
    · rw [if_pos henabled]
      have hfirst : (s.lowerLayerDown rec.pContext).Coherent :=
        (h.booked.lowerLayerDown (hup rec List.mem_cons_self henabled)).coherent fun hclosing =>
          (h.live hclosing).lowerLayerDown (by rw [hempty]; exact fun _ htx => by cases htx)
      obtain ⟨hcoherent, hframed', honline⟩ := ih hfirst hdistinct.2 hempty
        (fun rec' hrec' henabled' => (online_lowerLayerDown s _ _).mpr
          ⟨hrest rec' hrec', hup rec' (List.mem_cons_of_mem _ hrec') henabled'⟩)
      refine ⟨hcoherent, (framed_lowerLayerDown s _).trans hframed', fun c => ?_⟩
      rw [honline, online_lowerLayerDown]
      simp only [List.forall_mem_cons, henabled]
      grind
    · rw [if_neg henabled]
      obtain ⟨hcoherent, hframed', honline⟩ := ih h hdistinct.2 hempty
        (fun rec' hrec' => hup rec' (List.mem_cons_of_mem _ hrec'))
      refine ⟨hcoherent, hframed', fun c => ?_⟩
      rw [honline]
      simp only [List.forall_mem_cons, henabled]
      grind

/-! ## The monitor -/

/-- The records and the monitor between two events. -/
structure Steady (s : LinkLayerRouter κ) : Prop where
  served : s.Served
  distinct : (s.records.map (·.pContext)).Nodup
  monitor : s.mpState.Agrees s.pPhys
  online : s.isOnline = s.pPhys.isOpen

/-- The invariant of the router between two events. -/
structure Sound (s : LinkLayerRouter κ) : Prop where
  coherent : s.Coherent
  steady : s.Steady

omit [DecidableEq κ] in
/-- The monitor does not see a write. -/
theorem Framed.monitor {s t : LinkLayerRouter κ} (h : s.Framed t)
    (hmonitor : s.mpState.Agrees s.pPhys) : t.mpState.Agrees t.pPhys := by
  rw [h.mpState]
  rcases h.pPhys with hp | ⟨hw, hp⟩
  · rw [hp]
    exact hmonitor
  · have hopen : s.pPhys.isOpen = true := by
      simp only [PhysicalLayer.canWrite, Bool.and_eq_true] at hw
      exact hw.1.1
    rw [hp]
    exact hmonitor.of_open hopen hopen rfl id

omit [DecidableEq κ] in
theorem Framed.isOpen {s t : LinkLayerRouter κ} (h : s.Framed t) :
    t.pPhys.isOpen = s.pPhys.isOpen := by
  rcases h.pPhys with hp | ⟨_, hp⟩ <;> rw [hp]

omit [DecidableEq κ] in
theorem Steady.of_kept {s t : LinkLayerRouter κ} (hs : s.Steady) (h : s.Kept t) : t.Steady := by
  refine ⟨hs.served.of_kept h, ?_, h.toFramed.monitor hs.monitor, ?_⟩
  · rw [h.records]
    exact hs.distinct
  · rw [h.isOnline, h.toFramed.isOpen]
    exact hs.online

/-- When the layer is closed every context is told, and nothing is left. -/
theorem sound_onPhysicalLayerCloseCallback {s : LinkLayerRouter κ} (hobserved : s.Observed)
    (hagrees : s.Agrees) (hdistinct : (s.records.map (·.pContext)).Nodup)
    (hmonitor : s.mpState.Agrees s.pPhys) (hclosed : s.pPhys = .closed) (hoff : s.isOnline = false)
    (hserved : ∀ c, (s.sessions c).isOnline = true ↔
      ∃ rec ∈ s.records, rec.pContext = c ∧ rec.enabled = true) :
    s.onPhysicalLayerCloseCallback.Sound := by
  have hdropped :
      (({ s with isTransmitting := false, transmitQueue := [] }).note .closed).Coherent := by
    have hbooks : (({ s with isTransmitting := false, transmitQueue := [] }).note .closed).books =
        s.books.next .closed := books_note _ _
    refine ⟨hobserved.note (e := .closed) trivial, ⟨fun c => ?_, fun c => ?_⟩, fun _ => ?_,
      fun _ => ?_⟩
    · rw [hbooks]
      exact hagrees.registered c
    · rw [hbooks]
      exact hagrees.up c
    · rw [hbooks]
      exact ⟨rfl, rfl, rfl, rfl⟩
    · refine ⟨?_, List.nodup_nil, ?_, ?_, fun hfalse => absurd hfalse Bool.false_ne_true⟩
      · rw [hbooks]
        exact .nil
      · rw [hbooks]
        rfl
      · show false = s.pPhys.isWriting
        rw [hclosed]
        rfl
  obtain ⟨hcoherent, hframed, honline⟩ := hdropped.foldl_lowerLayerDown s.records hdistinct rfl
    (fun rec hrec henabled => (hserved _).mpr ⟨rec, hrec, rfl, henabled⟩)
  have hrecords : s.onPhysicalLayerCloseCallback.records = s.records := hframed.records
  have hstate : s.onPhysicalLayerCloseCallback.mpState = s.mpState := hframed.mpState
  have hphys : s.onPhysicalLayerCloseCallback.pPhys = s.pPhys := by
    rcases hframed.pPhys with hp | ⟨hw, _⟩
    · exact hp
    · have hw' : s.pPhys.canWrite = true := hw
      rw [hclosed] at hw'
      exact absurd hw' Bool.false_ne_true
  have hisOnline : s.onPhysicalLayerCloseCallback.isOnline = false := hframed.isOnline.trans hoff
  refine ⟨hcoherent, fun c => ?_, ?_, ?_, ?_⟩
  · rw [hisOnline]
    refine ⟨fun hon => ?_, fun h => absurd h.1 Bool.false_ne_true⟩
    obtain ⟨hon', hall⟩ := (honline c).mp hon
    obtain ⟨rec, hrec, hc, henabled⟩ := (hserved c).mp hon'
    rw [hall rec hrec hc] at henabled
    exact absurd henabled Bool.false_ne_true
  · rw [hrecords]
    exact hdistinct
  · rw [hstate, hphys]
    exact hmonitor
  · rw [hisOnline, hphys, hclosed]
    rfl

/-- When a layer that closes has no callback pending, the monitor is told. -/
theorem sound_checkForClose {s : LinkLayerRouter κ} (hbooked : s.Booked) (hsteady : s.Steady)
    (hlive : s.pPhys.isClosing = false → s.Live) : s.checkForClose.Sound := by
  unfold checkForClose PhysicalLayer.checkForClose
  by_cases hclose : (s.pPhys.isClosing && !s.pPhys.callbacksPending) = true
  · rw [if_pos hclose]
    simp only [Bool.and_eq_true, Bool.not_eq_true', PhysicalLayer.callbacksPending,
      Bool.or_eq_false_iff] at hclose
    obtain ⟨hclosing, ⟨hopening, hreading⟩, hwriting⟩ := hclose
    have hopen := hsteady.monitor.isOpen_of_closing hclosing hopening
    have hclosed : ({ s.pPhys with isClosing := false, isOpen := false } : PhysicalLayer) =
        .closed := by
      simp only [PhysicalLayer.closed, hopening, hreading, hwriting]
    obtain ⟨state, action, hstate, hmonitor, haction⟩ := hsteady.monitor.onLayerClose hopen
    simp only [if_true]
    rw [onLowerLayerDown, hstate, hclosed]
    have hserved : ∀ c, (s.sessions c).isOnline = true ↔
        ∃ rec ∈ s.records, rec.pContext = c ∧ rec.enabled = true := fun c =>
      (hsteady.served c).trans (and_iff_right (hsteady.online.trans hopen))
    rcases haction with rfl | rfl
    · exact sound_onPhysicalLayerCloseCallback hbooked.observed
        ⟨hbooked.agrees.registered, hbooked.agrees.up⟩ hsteady.distinct hmonitor rfl rfl hserved
    · exact sound_onPhysicalLayerCloseCallback hbooked.observed
        ⟨hbooked.agrees.registered, hbooked.agrees.up⟩ hsteady.distinct hmonitor rfl rfl hserved
  · rw [if_neg hclose]
    exact ⟨hbooked.coherent hlive, hsteady⟩

/-- Nothing changes of the frames, the sessions and the books. -/
structure SameFrames (s t : LinkLayerRouter κ) : Prop where
  log : t.log = s.log
  sessions : t.sessions = s.sessions
  transmitQueue : t.transmitQueue = s.transmitQueue
  isTransmitting : t.isTransmitting = s.isTransmitting
  contexts : t.records.map (·.pContext) = s.records.map (·.pContext)

theorem SameFrames.hasContext {s t : LinkLayerRouter κ} (h : s.SameFrames t) (c : κ) :
    t.hasContext c = s.hasContext c := by
  have hany : ∀ recs : List (Record κ),
      recs.any (·.pContext == c) = (recs.map (·.pContext)).any (· == c) := fun recs => by
    rw [List.any_map]
    rfl
  rw [LinkLayerRouter.hasContext, LinkLayerRouter.hasContext, hany, hany, h.contexts]

theorem SameFrames.books {s t : LinkLayerRouter κ} (h : s.SameFrames t) : t.books = s.books := by
  rw [LinkLayerRouter.books, LinkLayerRouter.books, h.log]

theorem Live.of_same {s t : LinkLayerRouter κ} (hs : s.Live) (h : s.SameFrames t)
    (hwriting : t.pPhys.isWriting = s.pPhys.isWriting) : t.Live := by
  refine ⟨?_, ?_, ?_, ?_, ?_⟩
  · rw [h.books, h.transmitQueue]
    refine forall₂_liveFrame_imp hs.frames fun q tx _ hframe => ?_
    refine ⟨hframe.context, ?_, ?_, ?_, ?_, ?_⟩
    · rw [hframe.bytes, content, content, h.sessions]
    · rw [hframe.period, h.books]
    · rw [h.sessions]
      exact hframe.online
    · rw [h.sessions]
      exact hframe.mode
    · rw [h.hasContext]
      exact hframe.registered
  · rw [h.transmitQueue]
    exact hs.distinct
  · rw [h.books, h.isTransmitting]
    exact hs.writing
  · rw [h.isTransmitting, hwriting]
    exact hs.waiting
  · rw [h.isTransmitting, h.transmitQueue]
    exact hs.started

theorem Booked.of_same {s t : LinkLayerRouter κ} (hs : s.Booked) (h : s.SameFrames t)
    (honline : t.isOnline = false → s.isOnline = false) : t.Booked := by
  refine ⟨?_, ⟨fun c => ?_, fun c => ?_⟩, fun hoff => ?_⟩
  · rw [Observed, h.log]
    exact hs.observed
  · rw [h.books, h.hasContext]
    exact hs.agrees.registered c
  · rw [h.books, h.sessions]
    exact hs.agrees.up c
  · rw [h.books, h.transmitQueue, h.isTransmitting]
    exact hs.quiet (honline hoff)

theorem Coherent.of_same {s t : LinkLayerRouter κ} (hs : s.Coherent) (h : s.SameFrames t)
    (honline : t.isOnline = false → s.isOnline = false)
    (hclosing : t.pPhys.isClosing = false → s.pPhys.isClosing = false)
    (hwriting : t.pPhys.isWriting = s.pPhys.isWriting) : t.Coherent :=
  (hs.booked.of_same h honline).coherent fun hclosed =>
    (hs.live (hclosing hclosed)).of_same h hwriting

/-- Nothing is live in an offline router, so its frames may be taken for live. -/
theorem Booked.live_of_offline {s : LinkLayerRouter κ} (h : s.Booked) (hoff : s.isOnline = false)
    (hwriting : s.pPhys.isWriting = false) : s.Live := by
  obtain ⟨hqueue, htransmitting, hbooks, hwriting'⟩ := h.quiet hoff
  refine ⟨?_, ?_, ?_, ?_, ?_⟩
  · rw [hbooks, hqueue]
    exact .nil
  · rw [hqueue]
    exact List.nodup_nil
  · rw [hwriting', htransmitting]
  · rw [htransmitting, hwriting]
  · rw [htransmitting]
    exact fun hfalse => absurd hfalse Bool.false_ne_true

/-- An answer that does not close the layer. -/
theorem sound_act {s : LinkLayerRouter κ} (hbooked : s.Booked) (hsteady : s.Steady)
    (hlive : s.pPhys.isClosing = false → s.Live) {state : MonitorState} {action : MonitorAction}
    (hmonitor : state.Agrees (s.act action).pPhys) :
    (({ s with mpState := state }).act action).Sound := by
  have hcoherent := hbooked.coherent hlive
  cases action with
  | beginOpen =>
    exact ⟨hcoherent.of_same ⟨rfl, rfl, rfl, rfl, rfl⟩ id
        (fun h => s.pPhys.beginOpen_isClosing.symm.trans h) s.pPhys.beginOpen_isWriting,
      hsteady.served, hsteady.distinct, hmonitor,
      hsteady.online.trans s.pPhys.beginOpen_isOpen.symm⟩
  | _ =>
    exact ⟨hcoherent.of_same ⟨rfl, rfl, rfl, rfl, rfl⟩ id id rfl,
      hsteady.served, hsteady.distinct, hmonitor, hsteady.online⟩

/-! ## The events -/

theorem Sound.transmit {s : LinkLayerRouter κ} (h : s.Sound) (c : κ) (f : Link.Format) :
    (s.transmit c f).Sound :=
  ⟨h.coherent.transmit c f, h.steady.of_kept (kept_transmit s c f)⟩

/-- A request is answered: the layer is closed, or the monitor's answer goes with the layer. -/
theorem sound_request {s : LinkLayerRouter κ}
    {answer : MonitorState → MonitorState × MonitorAction} (hbooked : s.Booked)
    (hsteady : s.Steady) (hanswer : MonitorState.Answers s.pPhys (answer s.mpState))
    (hlive : (answer s.mpState).2 = .beginClose ∨ (s.pPhys.isClosing = false → s.Live)) :
    (s.request answer).Sound := by
  unfold request
  generalize answer s.mpState = a at *
  obtain ⟨state, action⟩ := a
  simp only at *
  by_cases haction : action = .beginClose
  · subst haction
    rw [if_pos rfl]
    refine sound_checkForClose (s := { s with mpState := state, pPhys := s.pPhys.startClose })
      (hbooked.of_same ⟨rfl, rfl, rfl, rfl, rfl⟩ id) ⟨hsteady.served, hsteady.distinct,
        hanswer.1, hsteady.online.trans s.pPhys.startClose_isOpen.symm⟩ fun hopen => ?_
    exact absurd (hopen.symm.trans hanswer.2) Bool.false_ne_true
  · rw [if_neg haction]
    refine sound_act hbooked hsteady (hlive.resolve_left haction) ?_
    cases action with
    | beginClose => exact absurd rfl haction
    | _ => exact hanswer

/-- Suspending leaves no frame that could be written or reported: no frame needs to be live. -/
theorem sound_suspend {s : LinkLayerRouter κ} (hbooked : s.Booked) (hsteady : s.Steady) :
    s.suspend.Sound := by
  obtain ⟨hanswer, hdead⟩ := hsteady.monitor.onSuspendRequest
  refine sound_request hbooked hsteady hanswer (hdead.imp_right fun hdead hclosing => ?_)
  rcases hdead with hclosing' | ⟨hopen, hwriting⟩
  · exact absurd (hclosing.symm.trans hclosing') Bool.false_ne_true
  · exact hbooked.live_of_offline (hsteady.online.trans hopen) hwriting

theorem Sound.shutdown {s : LinkLayerRouter κ} (h : s.Sound) : s.shutdown.Sound :=
  sound_request h.coherent.booked h.steady h.steady.monitor.onShutdownRequest (.inr h.coherent.live)

theorem Sound.start {s : LinkLayerRouter κ} (h : s.Sound) : s.start.Sound :=
  sound_request h.coherent.booked h.steady h.steady.monitor.onStartRequest (.inr h.coherent.live)

theorem hasContext_of_mem {s : LinkLayerRouter κ} {rec : Record κ} (h : rec ∈ s.records) :
    s.hasContext rec.pContext = true :=
  List.any_eq_true.mpr ⟨rec, h, beq_self_eq_true _⟩

omit [DecidableEq κ] in
/-- No context is online while the router is not. -/
theorem Served.offline {s : LinkLayerRouter κ} (h : s.Served) (hoff : s.isOnline = false) (c : κ) :
    (s.sessions c).isOnline = false :=
  Bool.eq_false_iff.mpr fun hon =>
    absurd (hoff.symm.trans ((h c).mp hon).1) Bool.false_ne_true

/-- The layer could not be opened. -/
theorem sound_onOpenFailure {s : LinkLayerRouter κ} (hbooked : s.Booked) (hsteady : s.Steady)
    (hopen : s.pPhys.isOpen = false) {failed : MonitorState} {action : MonitorAction}
    (hfailure : s.mpState.onOpenFailure = some (failed, action))
    (hmonitor : failed.Agrees .closed) (haction : action ≠ .beginOpen) :
    (({ s with pPhys := .closed } : LinkLayerRouter κ).onOpenFailure).Sound := by
  have hoff : s.isOnline = false := hsteady.online.trans hopen
  have hclosed : ∀ t : LinkLayerRouter κ, s.SameFrames t → t.pPhys = .closed →
      t.mpState = failed → t.isOnline = s.isOnline → t.records = s.records → t.Sound := by
    intro t hsame hphys hstate hisOnline hrecords
    have htoff : t.isOnline = false := hisOnline.trans hoff
    have htbooked : t.Booked := hbooked.of_same hsame fun _ => hoff
    refine ⟨htbooked.coherent fun _ => htbooked.live_of_offline htoff ?_, fun c => ?_, ?_, ?_, ?_⟩
    · rw [hphys]
      rfl
    · rw [hsame.sessions, hisOnline, hrecords]
      exact hsteady.served c
    · rw [hrecords]
      exact hsteady.distinct
    · rw [hstate, hphys]
      exact hmonitor
    · rw [htoff, hphys]
      rfl
  unfold LinkLayerRouter.onOpenFailure
  simp only [hfailure]
  cases action with
  | beginOpen => exact absurd rfl haction
  | _ => exact hclosed _ ⟨rfl, rfl, rfl, rfl, rfl⟩ rfl rfl rfl rfl

/-- The layer is open, and every enabled context comes up. -/
theorem sound_onLowerLayerUp {s : LinkLayerRouter κ} (hbooked : s.Booked) (hsteady : s.Steady)
    (hopen : s.pPhys.isOpen = false) (hwriting : s.pPhys.isWriting = false) {up : MonitorState}
    (hup : s.mpState.onLayerOpen = some up)
    (hmonitor : up.Agrees { PhysicalLayer.closed with isOpen := true })
    (frames : κ → List Link.Format) :
    (({ s with pPhys := { PhysicalLayer.closed with isOpen := true } } :
      LinkLayerRouter κ).onLowerLayerUp frames).Sound := by
  have hoff : s.isOnline = false := hsteady.online.trans hopen
  unfold LinkLayerRouter.onLowerLayerUp
  simp only [hup]
  unfold onPhysicalLayerOpenSuccessCallback
  simp only
  generalize hu : ({ s with
    mpState := up
    isOnline := true
    pPhys := ({ PhysicalLayer.closed with isOpen := true } : PhysicalLayer).beginRead } :
      LinkLayerRouter κ) = u
  have hsame : s.SameFrames u := by
    subst hu
    exact ⟨rfl, rfl, rfl, rfl, rfl⟩
  have hcoherent : u.Coherent := by
    have hphys : u.pPhys.isWriting = s.pPhys.isWriting := by
      subst hu
      exact hwriting.symm
    have hon : u.isOnline = true := by
      subst hu
      rfl
    exact (hbooked.of_same hsame fun h => absurd (h.symm.trans hon) Bool.false_ne_true).coherent
      fun _ => (hbooked.live_of_offline hoff hwriting).of_same hsame hphys
  have hrecords : u.records = s.records := by
    subst hu
    rfl
  obtain ⟨hcoherent', hframed, honline⟩ := hcoherent.foldl_lowerLayerUp frames s.records
    hsteady.distinct
    (fun rec hrec => (hsame.hasContext _).trans (hasContext_of_mem hrec))
    (fun rec _ => by
      rw [hsame.sessions]
      exact hsteady.served.offline hoff _)
  refine ⟨hcoherent', fun c => ?_, ?_, ?_, ?_⟩
  · rw [honline, hframed.isOnline, hframed.records, hrecords, hsame.sessions,
      hsteady.served.offline hoff c]
    subst hu
    simp
  · rw [hframed.records, hrecords]
    exact hsteady.distinct
  · refine hframed.monitor ?_
    subst hu
    exact hmonitor.of_open rfl rfl rfl id
  · rw [hframed.isOnline, hframed.isOpen]
    subst hu
    rfl

theorem Sound.onOpenCallback {s : LinkLayerRouter κ} (h : s.Sound) (err : Bool)
    (frames : κ → List Link.Format) : (s.onOpenCallback err frames).Sound := by
  unfold LinkLayerRouter.onOpenCallback
  by_cases hopening : s.pPhys.isOpening = true
  · rw [if_pos hopening]
    have hbooked := h.coherent.booked
    rcases h.steady.monitor.onOpenCallback hopening with
      ⟨hp, up, hup, hmonitor, failed, action, hfailure, hfailed, haction⟩ |
      ⟨hp, failed, action, hfailure, hfailed, haction⟩
    · have hfalse := sound_onOpenFailure hbooked h.steady (by rw [hp]; rfl) hfailure hfailed haction
      have htrue := sound_onLowerLayerUp hbooked h.steady (by rw [hp]; rfl) (by rw [hp]; rfl) hup
        hmonitor frames
      simp only [hp]
      cases err with
      | true => exact hfalse
      | false => exact htrue
    · have hfalse := sound_onOpenFailure hbooked h.steady (by rw [hp]; rfl) hfailure hfailed haction
      simp only [hp]
      cases err with
      | true => exact hfalse
      | false => exact hfalse
  · rw [if_neg hopening]
    exact h

omit [DecidableEq κ] in
/-- The layer does something else, and is no further from closing. -/
theorem Steady.of_open {s t : LinkLayerRouter κ} (hs : s.Steady)
    (hsessions : t.sessions = s.sessions)
    (hrecords : t.records = s.records) (hstate : t.mpState = s.mpState)
    (hisOnline : t.isOnline = s.isOnline) (hopen : s.pPhys.isOpen = true)
    (hopen' : t.pPhys.isOpen = true) (hopening : t.pPhys.isOpening = s.pPhys.isOpening)
    (hclosing : s.pPhys.isClosing = true → t.pPhys.isClosing = true) : t.Steady := by
  refine ⟨fun c => ?_, ?_, ?_, ?_⟩
  · rw [hsessions, hisOnline, hrecords]
    exact hs.served c
  · rw [hrecords]
    exact hs.distinct
  · rw [hstate]
    exact hs.monitor.of_open hopen hopen' hopening hclosing
  · rw [hisOnline, hopen', hs.online, hopen]

/-- An error makes the layer close. -/
theorem sound_closeOnError {s : LinkLayerRouter κ} (hbooked : s.Booked) (hsteady : s.Steady)
    (hopen : s.pPhys.isOpen = true) :
    ({ s with pPhys := s.pPhys.startClose } : LinkLayerRouter κ).checkForClose.Sound := by
  have hclosing := s.pPhys.startClose_isClosing hopen
  refine sound_checkForClose (s := { s with pPhys := s.pPhys.startClose })
    (hbooked.of_same ⟨rfl, rfl, rfl, rfl, rfl⟩ id)
    (hsteady.of_open rfl rfl rfl rfl hopen (s.pPhys.startClose_isOpen.trans hopen)
      s.pPhys.startClose_isOpening fun _ => hclosing) fun hopen' => ?_
  exact absurd (hopen'.symm.trans hclosing) Bool.false_ne_true

theorem Sound.beginRead {s : LinkLayerRouter κ} (h : s.Sound) (hopen : s.pPhys.isOpen = true) :
    ({ s with pPhys := s.pPhys.beginRead } : LinkLayerRouter κ).Sound :=
  ⟨h.coherent.of_same ⟨rfl, rfl, rfl, rfl, rfl⟩ id
      (fun hclosing => s.pPhys.beginRead_isClosing.symm.trans hclosing) s.pPhys.beginRead_isWriting,
    h.steady.of_open rfl rfl rfl rfl hopen (s.pPhys.beginRead_isOpen.trans hopen)
      s.pPhys.beginRead_isOpening fun hclosing => s.pPhys.beginRead_isClosing.trans hclosing⟩

theorem Sound.checkForClose {s : LinkLayerRouter κ} (h : s.Sound) : s.checkForClose.Sound :=
  sound_checkForClose h.coherent.booked h.steady h.coherent.live

theorem kept_foldl_transmit (s : LinkLayerRouter κ) (frames : List (κ × Link.Format)) :
    s.Kept (frames.foldl (fun s x => s.transmit x.1 x.2) s) := by
  induction frames generalizing s with
  | nil => exact .refl s
  | cons x frames ih => exact (kept_transmit s x.1 x.2).trans (ih _)

theorem Sound.foldl_transmit {s : LinkLayerRouter κ} (h : s.Sound)
    (frames : List (κ × Link.Format)) :
    (frames.foldl (fun s x => s.transmit x.1 x.2) s).Sound := by
  induction frames generalizing s with
  | nil => exact h
  | cons x frames ih => exact ih (h.transmit x.1 x.2)

theorem kept_onSendResult (s : LinkLayerRouter κ) (frames : List Link.Format) :
    s.Kept (s.onSendResult frames) := by
  unfold onSendResult
  split
  · exact .refl s
  · rename_i tx rest hqueue
    have hpopped : s.Kept (({ s with isTransmitting := false, transmitQueue := rest } :
        LinkLayerRouter κ).note (.transmitResult tx.pContext (s.content tx))) :=
      ⟨⟨rfl, rfl, rfl, .inl rfl⟩, fun _ => rfl⟩
    exact (hpopped.trans (kept_onTransmitResult _ _ frames)).trans (kept_checkForSend _)

theorem Sound.onReadCallback {s : LinkLayerRouter κ} (h : s.Sound) (err : Bool)
    (frames : List (κ × Link.Format)) : (s.onReadCallback err frames).Sound := by
  unfold LinkLayerRouter.onReadCallback
  by_cases hreading : s.pPhys.isReading = true
  · rw [if_pos hreading]
    have hopen := h.steady.monitor.isOpen (.inl hreading)
    have hread : ({ s with pPhys.isReading := false } : LinkLayerRouter κ).Sound :=
      ⟨h.coherent.of_same ⟨rfl, rfl, rfl, rfl, rfl⟩ id id rfl,
        h.steady.of_open rfl rfl rfl rfl hopen hopen rfl id⟩
    simp only
    split
    · exact sound_closeOnError hread.coherent.booked hread.steady hopen
    · split
      · exact hread.checkForClose
      · refine ((hread.foldl_transmit frames).beginRead ?_).checkForClose
        rw [(kept_foldl_transmit _ frames).toFramed.isOpen]
        exact hopen
  · rw [if_neg hreading]
    exact h

theorem Sound.onWriteCallback {s : LinkLayerRouter κ} (h : s.Sound) (err : Bool)
    (frames : List Link.Format) : (s.onWriteCallback err frames).Sound := by
  unfold LinkLayerRouter.onWriteCallback
  by_cases hwriting : s.pPhys.isWriting = true
  · rw [if_pos hwriting]
    have hopen := h.steady.monitor.isOpen (.inr hwriting)
    have hbooked : s.written.Booked := h.coherent.booked.of_same ⟨rfl, rfl, rfl, rfl, rfl⟩ id
    have hsteady : s.written.Steady := h.steady.of_open rfl rfl rfl rfl hopen hopen rfl id
    simp only
    split
    · exact sound_closeOnError hbooked hsteady hopen
    · by_cases hclosing : s.pPhys.isClosing = true
      · rw [if_pos hclosing]
        exact sound_checkForClose hbooked hsteady fun hopen' =>
          absurd (hopen'.symm.trans hclosing) Bool.false_ne_true
      · rw [if_neg hclosing]
        have hresult : (s.written.onSendResult frames).Sound :=
          ⟨h.coherent.onSendResult frames (Bool.eq_false_iff.mpr hclosing) hwriting
              (h.steady.online.trans hopen),
            hsteady.of_kept (kept_onSendResult s.written frames)⟩
        exact hresult.checkForClose
  · rw [if_neg hwriting]
    exact h

theorem Sound.onOpenTimerExpiration {s : LinkLayerRouter κ} (h : s.Sound) :
    s.onOpenTimerExpiration.Sound := by
  unfold LinkLayerRouter.onOpenTimerExpiration
  cases hanswer : s.mpState.onOpenTimeout with
  | none => exact h
  | some answer =>
    obtain ⟨state, action⟩ := answer
    obtain ⟨rfl, hmonitor⟩ := h.steady.monitor.onOpenTimeout hanswer
    have hsound : (({ s with mpState := state }).act .beginOpen).Sound :=
      sound_act h.coherent.booked h.steady h.coherent.live hmonitor
    exact ⟨hsound.coherent.of_same ⟨rfl, rfl, rfl, rfl, rfl⟩ id id rfl, hsound.steady.served,
      hsound.steady.distinct, hsound.steady.monitor, hsound.steady.online⟩

theorem Sound.addContext {s : LinkLayerRouter κ} (h : s.Sound) (c : κ) (route : Route) :
    (s.addContext c route).Sound := by
  unfold LinkLayerRouter.addContext
  split
  · exact h
  · split
    · exact h
    · rename_i hnew
      have hcoherent := h.coherent
      generalize hadded : ({ pContext := c, route := route, enabled := false } : Record κ) = added
      have hhas : ∀ d, (({ s with records := s.records ++ [added] } :
          LinkLayerRouter κ).note (.added c)).hasContext d = (s.hasContext d || (c == d)) := by
        intro d
        subst hadded
        simp [hasContext, note]
      have hbooks : (({ s with records := s.records ++ [added] } :
          LinkLayerRouter κ).note (.added c)).books = s.books.next (.added c) := books_note _ _
      refine ⟨⟨hcoherent.observed.note (e := .added c) ?_, ⟨fun d => ?_, fun d => ?_⟩,
        fun hoff => ?_, fun hclosing => ?_⟩, fun d => ?_, ?_, h.steady.monitor, h.steady.online⟩
      · exact (hcoherent.agrees.registered c).trans (Bool.eq_false_iff.mpr hnew)
      · rw [hbooks, hhas]
        by_cases hd : d = c
        · rw [hd, beq_self_eq_true, Bool.or_true]
          exact Function.update_self ..
        · rw [beq_false_of_ne (Ne.symm hd), Bool.or_false]
          exact (Function.update_of_ne hd ..).trans (hcoherent.agrees.registered d)
      · rw [hbooks]
        exact hcoherent.agrees.up d
      · rw [hbooks]
        exact hcoherent.quiet hoff
      · have hlive := hcoherent.live hclosing
        refine ⟨?_, hlive.distinct, ?_, hlive.waiting, hlive.started⟩
        · rw [hbooks]
          refine forall₂_liveFrame_imp hlive.frames fun q tx _ hframe => ?_
          refine ⟨hframe.context, hframe.bytes, ?_, hframe.online, hframe.mode, ?_⟩
          · rw [hbooks]
            exact hframe.period
          · rw [hhas, hframe.registered, Bool.true_or]
        · rw [hbooks]
          exact hlive.writing
      · refine (h.steady.served d).trans (and_congr_right fun _ => ?_)
        show _ ↔ ∃ rec ∈ s.records ++ [added], _
        subst hadded
        simp only [List.mem_append, List.mem_singleton, or_and_right, exists_or, exists_eq_left,
          Bool.false_eq_true, and_false, or_false]
      · show ((s.records ++ [added]).map _).Nodup
        subst hadded
        rw [List.map_append, List.nodup_append]
        refine ⟨h.steady.distinct, by simp, ?_⟩
        rintro a ha b hb rfl
        rw [List.map_singleton, List.mem_singleton] at hb
        obtain ⟨rec, hrec, hctx⟩ := List.mem_map.mp ha
        refine hnew (List.any_eq_true.mpr ⟨rec, hrec, ?_⟩)
        rw [hctx, hb]
        exact beq_self_eq_true _

omit [DecidableEq κ] in
/-- A context has one record. -/
theorem Steady.record_unique {s : LinkLayerRouter κ} (h : s.Steady) {rec rec' : Record κ}
    (hrec : rec ∈ s.records) (hrec' : rec' ∈ s.records) (hc : rec.pContext = rec'.pContext) :
    rec = rec' := List.inj_on_of_nodup_map h.distinct hrec hrec' hc

omit [DecidableEq κ] in
/-- A context that is not enabled is not online. -/
theorem Steady.down {s : LinkLayerRouter κ} (h : s.Steady) {c : κ} {iter : Record κ}
    (hiter : iter ∈ s.records) (hctx : iter.pContext = c) (hdisabled : iter.enabled = false) :
    (s.sessions c).isOnline = false := Bool.eq_false_iff.mpr fun hon => by
  obtain ⟨_, rec, hrec, hc, henabled⟩ := (h.served c).mp hon
  rw [h.record_unique hrec hiter (hc.trans hctx.symm), hdisabled] at henabled
  exact absurd henabled Bool.false_ne_true

theorem mem_of_record {s : LinkLayerRouter κ} {c : κ} {iter : Record κ}
    (h : s.record c = some iter) : iter ∈ s.records ∧ iter.pContext = c := by
  refine ⟨List.mem_of_find?_eq_some h, ?_⟩
  have hc := List.find?_some h
  exact eq_of_beq hc

theorem sameFrames_setEnabled (s : LinkLayerRouter κ) (c : κ) (enabled : Bool) :
    s.SameFrames (s.setEnabled c enabled) := by
  refine ⟨rfl, rfl, rfl, rfl, ?_⟩
  show (s.records.map _).map _ = _
  rw [List.map_map]
  refine List.map_congr_left fun rec _ => ?_
  show (if rec.pContext = c then { rec with enabled := enabled } else rec).pContext = rec.pContext
  split <;> rfl

/-- Which contexts are enabled when one is set. -/
theorem enabled_setEnabled (s : LinkLayerRouter κ) (c : κ) (enabled : Bool) (d : κ) :
    (∃ rec ∈ (s.setEnabled c enabled).records, rec.pContext = d ∧ rec.enabled = true) ↔
      if d = c then enabled = true ∧ s.hasContext c = true
      else ∃ rec ∈ s.records, rec.pContext = d ∧ rec.enabled = true := by
  show (∃ rec ∈ s.records.map _, _) ↔ _
  simp only [List.mem_map, exists_exists_and_eq_and, hasContext, List.any_eq_true, beq_iff_eq]
  split
  · rename_i hd
    subst hd
    constructor
    · rintro ⟨rec, hrec, hc, henabled⟩
      split at hc
      · rename_i hctx
        rw [if_pos hctx] at henabled
        exact ⟨henabled, rec, hrec, hctx⟩
      · rename_i hctx
        exact absurd hc hctx
    · rintro ⟨henabled, rec, hrec, hctx⟩
      refine ⟨rec, hrec, ?_⟩
      rw [if_pos hctx]
      exact ⟨hctx, henabled⟩
  · rename_i hd
    refine exists_congr fun rec => and_congr_right fun _ => ?_
    split
    · rename_i hctx
      simp only [hctx, Ne.symm hd, false_and]
    · rfl

theorem Sound.enable {s : LinkLayerRouter κ} (h : s.Sound) (c : κ) (frames : List Link.Format) :
    (s.enable c frames).Sound := by
  unfold LinkLayerRouter.enable
  cases hrecord : s.record c with
  | none => exact h
  | some iter =>
    simp only
    obtain ⟨hiter, hctx⟩ := mem_of_record hrecord
    split
    · exact h
    · rename_i hdisabled
      have hsame := sameFrames_setEnabled s c true
      have hhas : s.hasContext c = true := hctx ▸ hasContext_of_mem hiter
      have hcoherent : (s.setEnabled c true).Coherent := h.coherent.of_same hsame id id rfl
      have hdistinct : ((s.setEnabled c true).records.map (·.pContext)).Nodup :=
        hsame.contexts.symm ▸ h.steady.distinct
      have hdown := h.steady.down hiter hctx (Bool.eq_false_iff.mpr hdisabled)
      refine Sound.start ?_
      by_cases hup : s.isOnline = true
      · have hframed := framed_lowerLayerUp (s.setEnabled c true) c frames
        rw [if_pos (show (s.setEnabled c true).isOnline = true from hup)]
        refine ⟨hcoherent.lowerLayerUp frames ((hsame.hasContext c).trans hhas) hdown, fun d => ?_,
          ?_, hframed.monitor h.steady.monitor, ?_⟩
        · rw [online_lowerLayerUp, hframed.isOnline, hframed.records, enabled_setEnabled,
            hsame.sessions, h.steady.served d, show (s.setEnabled c true).isOnline = true from hup,
            hup]
          by_cases hd : d = c
          · simp [hd, hhas]
          · simp [hd]
        · rw [hframed.records]
          exact hdistinct
        · rw [hframed.isOnline, hframed.isOpen]
          exact h.steady.online
      · rw [if_neg (show ¬ (s.setEnabled c true).isOnline = true from hup)]
        have hoff := Bool.eq_false_iff.mpr hup
        refine ⟨hcoherent, fun d => ?_, hdistinct, h.steady.monitor, h.steady.online⟩
        rw [hsame.sessions, h.steady.served.offline hoff d]
        exact ⟨fun hfalse => absurd hfalse Bool.false_ne_true, fun hon => absurd hon.1 hup⟩

theorem Sound.disable {s : LinkLayerRouter κ} (h : s.Sound) {c : κ} (hc : s.CanLeave c) :
    (s.disable c).Sound := by
  unfold LinkLayerRouter.disable
  cases hrecord : s.record c with
  | none => exact h
  | some iter =>
    simp only
    obtain ⟨hiter, hctx⟩ := mem_of_record hrecord
    split
    · rename_i henabled
      have hsame := sameFrames_setEnabled s c false
      have hhas : s.hasContext c = true := hctx ▸ hasContext_of_mem hiter
      have hcoherent : (s.setEnabled c false).Coherent := h.coherent.of_same hsame id id rfl
      have hdistinct : ((s.setEnabled c false).records.map (·.pContext)).Nodup :=
        hsame.contexts.symm ▸ h.steady.distinct
      have hserved : ∀ d, (∃ rec ∈ (s.setEnabled c false).records, rec.pContext = d ∧
          rec.enabled = true) ↔
            d ≠ c ∧ ∃ rec ∈ s.records, rec.pContext = d ∧ rec.enabled = true := fun d => by
        rw [enabled_setEnabled]
        by_cases hd : d = c <;> simp [hd]
      by_cases hup : s.isOnline = true
      · rw [if_pos (show (s.setEnabled c false).isOnline = true from hup)]
        have hon : ((s.setEnabled c false).sessions c).isOnline = true :=
          (h.steady.served c).mpr ⟨hup, iter, hiter, hctx, henabled⟩
        have hbooked := hcoherent.booked.lowerLayerDown hon
        have hsteady : ((s.setEnabled c false).lowerLayerDown c).Steady := by
          refine ⟨fun d => ?_, hdistinct, h.steady.monitor, h.steady.online⟩
          rw [online_lowerLayerDown, hsame.sessions, h.steady.served d]
          show _ ↔ s.isOnline = true ∧ ∃ rec ∈ (s.setEnabled c false).records, _
          rw [hserved]
          tauto
        split
        · exact sound_suspend hbooked hsteady
        · rename_i hany
          refine ⟨hbooked.coherent fun hclosing => ?_, hsteady⟩
          refine (hcoherent.live hclosing).lowerLayerDown fun tx htx => ?_
          rcases hc with hnone | hclosing' | hall
          · exact hnone tx htx
          · exact absurd (hclosing.symm.trans hclosing') Bool.false_ne_true
          · refine absurd ?_ hany
            rw [Bool.not_eq_true', hasEnabledContext, List.any_eq_false]
            intro rec hrec henabled'
            obtain ⟨hd, rec', hrec', hctx', henabled''⟩ :=
              (hserved rec.pContext).mp ⟨rec, hrec, rfl, henabled'⟩
            exact hd (hctx'.symm.trans (hall rec' hrec' henabled''))
      · rw [if_neg (show ¬ (s.setEnabled c false).isOnline = true from hup)]
        have hoff := Bool.eq_false_iff.mpr hup
        have hsteady : (s.setEnabled c false).Steady := by
          refine ⟨fun d => ?_, hdistinct, h.steady.monitor, h.steady.online⟩
          rw [hsame.sessions, h.steady.served.offline hoff d]
          exact ⟨fun hfalse => absurd hfalse Bool.false_ne_true, fun hon => absurd hon.1 hup⟩
        split
        · exact sound_suspend hcoherent.booked hsteady
        · exact ⟨hcoherent, hsteady⟩
    · exact h

/-- Erasing the record of a context leaves the others. -/
theorem mem_eraseP_record {recs : List (Record κ)} (hdistinct : (recs.map (·.pContext)).Nodup)
    (c : κ) (rec : Record κ) :
    rec ∈ recs.eraseP (·.pContext == c) ↔ rec ∈ recs ∧ rec.pContext ≠ c := by
  induction recs with
  | nil => simp
  | cons r recs ih =>
    rw [List.map_cons, List.nodup_cons] at hdistinct
    by_cases hr : r.pContext = c
    · rw [List.eraseP_cons_of_pos (by simp [hr])]
      constructor
      · refine fun hrec => ⟨List.mem_cons_of_mem _ hrec, fun hc => hdistinct.1 ?_⟩
        exact List.mem_map.mpr ⟨rec, hrec, hc.trans hr.symm⟩
      · rintro ⟨hrec, hc⟩
        rcases List.mem_cons.mp hrec with rfl | hrec
        · exact absurd hr hc
        · exact hrec
    · rw [List.eraseP_cons_of_neg (by simp [hr]), List.mem_cons, List.mem_cons, ih hdistinct.2]
      constructor
      · rintro (rfl | ⟨hrec, hc⟩)
        · exact ⟨.inl rfl, hr⟩
        · exact ⟨.inr hrec, hc⟩
      · rintro ⟨rfl | hrec, hc⟩
        · exact .inl rfl
        · exact .inr ⟨hrec, hc⟩

/-- The record of a context that is down is erased. -/
def erased (s : LinkLayerRouter κ) (c : κ) : LinkLayerRouter κ :=
  ({ s with records := s.records.eraseP (·.pContext == c) }).note (.removed c)

theorem hasContext_erased {s : LinkLayerRouter κ} (hdistinct : (s.records.map (·.pContext)).Nodup)
    (c d : κ) : (s.erased c).hasContext d = true ↔ s.hasContext d = true ∧ d ≠ c := by
  show ((s.records.eraseP _).any _ = true) ↔ (s.records.any _ = true) ∧ _
  simp only [List.any_eq_true, mem_eraseP_record hdistinct, beq_iff_eq]
  constructor
  · rintro ⟨rec, ⟨hrec, hne⟩, rfl⟩
    exact ⟨⟨rec, hrec, rfl⟩, hne⟩
  · rintro ⟨⟨rec, hrec, rfl⟩, hne⟩
    exact ⟨rec, ⟨hrec, hne⟩, rfl⟩

theorem Booked.erased {s : LinkLayerRouter κ} (h : s.Booked)
    (hdistinct : (s.records.map (·.pContext)).Nodup) {c : κ} (hregistered : s.hasContext c = true)
    (hdown : (s.sessions c).isOnline = false) : (s.erased c).Booked := by
  have hbooks : (s.erased c).books = s.books.next (.removed c) := books_note _ _
  refine ⟨h.observed.note (e := .removed c) ⟨?_, ?_⟩, ⟨fun d => ?_, fun d => ?_⟩, fun hoff => ?_⟩
  · exact (h.agrees.registered c).trans hregistered
  · exact (h.agrees.up c).trans hdown
  · rw [hbooks, Bool.eq_iff_iff, hasContext_erased hdistinct, ← h.agrees.registered]
    show Function.update s.books.registered c false d = true ↔ _
    by_cases hd : d = c
    · rw [hd, Function.update_self]
      simp
    · rw [Function.update_of_ne hd]
      simp [hd]
  · rw [hbooks]
    exact h.agrees.up d
  · rw [hbooks]
    exact h.quiet hoff

theorem Live.erased {s : LinkLayerRouter κ} (h : s.Live)
    (hdistinct : (s.records.map (·.pContext)).Nodup) {c : κ}
    (hnone : ∀ tx ∈ s.transmitQueue, tx.pContext ≠ c) : (s.erased c).Live := by
  have hbooks : (s.erased c).books = s.books.next (.removed c) := books_note _ _
  refine ⟨?_, h.distinct, ?_, h.waiting, h.started⟩
  · rw [hbooks]
    refine forall₂_liveFrame_imp h.frames fun q tx htx hframe => ?_
    refine ⟨hframe.context, hframe.bytes, ?_, hframe.online, hframe.mode,
      (hasContext_erased hdistinct c _).mpr ⟨hframe.registered, hnone tx htx⟩⟩
    rw [hbooks]
    exact hframe.period
  · rw [hbooks]
    exact h.writing

theorem Steady.erased {s t : LinkLayerRouter κ} (hs : s.Steady) {c : κ} (hframed : s.Framed t)
    (honline : ∀ d, (t.sessions d).isOnline = true ↔ d ≠ c ∧ (s.sessions d).isOnline = true) :
    (t.erased c).Steady := by
  have hrecords : (t.erased c).records = s.records.eraseP (·.pContext == c) :=
    congrArg _ hframed.records
  refine ⟨fun d => ?_, ?_, hframed.monitor hs.monitor, ?_⟩
  · rw [hrecords, show (t.erased c).isOnline = s.isOnline from hframed.isOnline]
    refine (honline d).trans ?_
    rw [hs.served d]
    simp only [mem_eraseP_record hs.distinct]
    constructor
    · rintro ⟨hd, hup, rec, hrec, rfl, henabled⟩
      exact ⟨hup, rec, ⟨hrec, hd⟩, rfl, henabled⟩
    · rintro ⟨hup, rec, ⟨hrec, hd⟩, rfl, henabled⟩
      exact ⟨hd, hup, rec, hrec, rfl, henabled⟩
  · rw [hrecords]
    exact (hs.distinct.sublist ((List.eraseP_sublist).map _))
  · exact hframed.isOnline.trans (hs.online.trans hframed.isOpen.symm)

theorem Sound.remove {s : LinkLayerRouter κ} (h : s.Sound) {c : κ} (hc : s.CanLeave c)
    (hremoved : s.CanBeRemoved c) : (s.remove c).Sound := by
  unfold LinkLayerRouter.remove
  cases hrecord : s.record c with
  | none => exact h
  | some iter =>
    simp only
    obtain ⟨hiter, hctx⟩ := mem_of_record hrecord
    have hhas : s.hasContext c = true := hctx ▸ hasContext_of_mem hiter
    generalize ht : (if s.mpState.getState = .opened ∧ iter.enabled = true then s.lowerLayerDown c
      else s) = t
    -- whether or not it had to be told, the context is down, and nothing else has changed
    obtain ⟨hframed, honline, hbooked, hlive⟩ : s.Framed t ∧
        (∀ d, (t.sessions d).isOnline = true ↔ d ≠ c ∧ (s.sessions d).isOnline = true) ∧
        t.Booked ∧ ((∀ tx ∈ s.transmitQueue, tx.pContext ≠ c) → s.pPhys.isClosing = false →
          t.Live ∧ t.transmitQueue = s.transmitQueue) := by
      subst ht
      split
      · rename_i htold
        have hup : s.isOnline = true := by
          rw [h.steady.online]
          exact h.steady.monitor.isOpen_of_opened htold.1
        have hon : (s.sessions c).isOnline = true :=
          (h.steady.served c).mpr ⟨hup, iter, hiter, hctx, htold.2⟩
        exact ⟨framed_lowerLayerDown s c, online_lowerLayerDown s c,
          h.coherent.booked.lowerLayerDown hon,
          fun hnone hclosing => ⟨(h.coherent.live hclosing).lowerLayerDown hnone, rfl⟩⟩
      · rename_i htold
        have hdown : (s.sessions c).isOnline = false := by
          by_cases hup : s.isOnline = true
          · refine h.steady.down hiter hctx ?_
            rcases hremoved hup with hopened | hdisabled
            · exact Bool.eq_false_iff.mpr fun henabled => htold ⟨hopened, henabled⟩
            · exact hdisabled iter hiter hctx
          · exact h.steady.served.offline (Bool.eq_false_iff.mpr hup) c
        refine ⟨.refl s, fun d => ⟨fun hon => ⟨fun hd => ?_, hon⟩, fun hon => hon.2⟩,
          h.coherent.booked, fun _ hclosing => ⟨h.coherent.live hclosing, rfl⟩⟩
        rw [hd, hdown] at hon
        exact absurd hon Bool.false_ne_true
    have hdistinct : (t.records.map (·.pContext)).Nodup := by
      rw [hframed.records]
      exact h.steady.distinct
    have hdown : (t.sessions c).isOnline = false :=
      Bool.eq_false_iff.mpr fun hon => ((honline c).mp hon).1 rfl
    have hbooked' : (t.erased c).Booked :=
      hbooked.erased hdistinct ((hframed.hasContext c).trans hhas) hdown
    have hsteady : (t.erased c).Steady := h.steady.erased hframed honline
    show (if (!(t.erased c).hasEnabledContext) = true then (t.erased c).suspend
      else t.erased c).Sound
    split
    · exact sound_suspend hbooked' hsteady
    · rename_i hany
      refine ⟨hbooked'.coherent fun hclosing => ?_, hsteady⟩
      have hclosing' : s.pPhys.isClosing = false := hframed.isClosing.symm.trans hclosing
      rcases hc with hnone | hclosing'' | hall
      · obtain ⟨hlive', hqueue⟩ := hlive hnone hclosing'
        exact hlive'.erased hdistinct (by rw [hqueue]; exact hnone)
      · exact absurd (hclosing'.symm.trans hclosing'') Bool.false_ne_true
      · refine absurd ?_ hany
        rw [Bool.not_eq_true', hasEnabledContext, List.any_eq_false]
        intro rec hrec henabled
        obtain ⟨hrec', hne⟩ := (mem_eraseP_record hdistinct c rec).mp hrec
        exact hne (hall rec (hframed.records ▸ hrec') henabled)

/-- **What an orderly step keeps.** -/
theorem Sound.step {s : LinkLayerRouter κ} (h : s.Sound) {e : Event κ} (he : s.Orderly e) :
    (s.step e).Sound := by
  cases e with
  | addContext c route => exact h.addContext c route
  | enable c frames => exact h.enable c frames
  | disable c => exact h.disable he
  | remove c => exact h.remove he.1 he.2
  | shutdown => exact h.shutdown
  | transmit c f => exact h.transmit c f
  | openCallback err frames => exact h.onOpenCallback err frames
  | readCallback err frames => exact h.onReadCallback err frames
  | writeCallback err frames => exact h.onWriteCallback err frames
  | openTimerExpiration =>
    unfold LinkLayerRouter.step
    simp only
    split
    · exact h.onOpenTimerExpiration
    · exact h

theorem sound_initial : (initial : LinkLayerRouter κ).Sound := by
  refine ⟨⟨trivial, ⟨fun _ => rfl, fun _ => rfl⟩, fun _ => ⟨rfl, rfl, rfl, rfl⟩, fun _ =>
    ⟨.nil, List.nodup_nil, rfl, rfl, fun hfalse => absurd hfalse Bool.false_ne_true⟩⟩, fun c => ?_,
    List.nodup_nil, rfl, rfl⟩
  exact ⟨fun h => absurd h Bool.false_ne_true, fun h => absurd h.1 Bool.false_ne_true⟩

/-- **The sessions of a router.**  In every run in which contexts leave in order, the observer
accepts the log in every state: frames are written one at a time, in the order and with the bytes
they were queued; each result goes to the context that queued the frame, registered and in the same
up-period; and the notifications of a context alternate, ending with one that it is down before it
is removed. -/
theorem router_sessions (events : List (Event κ))
    (h : Throughout LinkLayerRouter.step Orderly initial events) :
    Always LinkLayerRouter.step Observed initial events :=
  (always_invariant (I := Sound) (P := Orderly) (fun _ _ hs he => hs.step he) sound_initial h).imp
    fun _ hs => hs.coherent.observed

/-- Two contexts come up and transmit; one is disabled and removed when its frame is written. -/
def orderlyContexts : List (Event Bool) :=
  [.addContext true ⟨1, 2⟩, .addContext false ⟨1, 3⟩, .enable true [], .enable false [],
    .openCallback false fun _ => [], .transmit true (.ack true false 1 2),
    .transmit false (.ack true false 1 3), .writeCallback false [], .disable true,
    .writeCallback false [], .remove true]

theorem router_sessions_orderly :
    Always LinkLayerRouter.step Observed initial orderlyContexts :=
  router_sessions orderlyContexts (by decide +kernel)

/-- Two contexts come up, one transmits, and is disabled before its write is done. -/
def leavingContext : List (Event Bool) :=
  [.addContext true ⟨1, 2⟩, .addContext false ⟨1, 3⟩, .enable true [], .enable false [],
    .openCallback false fun _ => [], .transmit true (.ack true false 1 2), .disable true,
    .writeCallback false []]

/-- The only context is disabled and enabled again before the channel has closed, then removed. -/
def removedContext : List (Event Bool) :=
  [.addContext true ⟨1, 2⟩, .enable true [], .openCallback false fun _ => [], .disable true,
    .enable true [], .remove true]

/-- The observer rejects a result for a context that is disabled, and the removal of a context that
is still up. -/
theorem router_sessions_left :
    ¬ Always LinkLayerRouter.step Observed initial leavingContext ∧
      ¬ Always LinkLayerRouter.step Observed initial removedContext := by
  decide +kernel

end LinkLayerRouter
end Asiodnp3
end Dnp3
