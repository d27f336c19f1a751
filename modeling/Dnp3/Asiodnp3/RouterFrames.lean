import Dnp3.Asiodnp3.LinkLayerRouter
import Mathlib.Data.List.Forall2

/-!
# The frames a router holds

An observer of the router's log knows which contexts are registered and up, how often each has come
up, and the frames that are queued with their bytes and the up-period they were queued in.  It
allows a write of the bytes of the first frame only, one at a time; a result only to the context of
that frame, registered and still in the period it queued the frame in; and notifications of a
context only in turn, with a removal only when it is down.

As long as the layer is not closing the frames in the queue are live: their contexts are in the
up-period they queued them in and have not touched the buffers since.  Whatever the contexts
transmit keeps that.
-/

namespace Dnp3
namespace Asiodnp3

open Library Link

variable {κ : Type} [DecidableEq κ]

/-! ## The observer -/

/-- A frame that waits to be written or for its result. -/
structure QueuedFrame (κ : Type) where
  context : κ
  bytes : List UInt8
  period : Nat

/-- What the observer knows of contexts and frames. -/
structure RouterBooks (κ : Type) where
  registered : κ → Bool
  up : κ → Bool
  period : κ → Nat
  queue : List (QueuedFrame κ)
  writing : Bool

/-- No context is registered, and nothing is queued. -/
def RouterBooks.initial : RouterBooks κ where
  registered := fun _ => false
  up := fun _ => false
  period := fun _ => 0
  queue := []
  writing := false

/-- What a router may do. -/
def RouterBooks.Allows (b : RouterBooks κ) : LogEntry κ → Prop
  | .added c => b.registered c = false
  | .removed c => b.registered c = true ∧ b.up c = false
  | .up c => b.registered c = true ∧ b.up c = false
  | .down c => b.up c = true
  | .queued _ _ => True
  | .written bytes => b.writing = false ∧ b.queue.head?.map (·.bytes) = some bytes
  | .transmitResult c bytes => b.writing = true ∧ b.registered c = true ∧ b.up c = true ∧
      b.queue.head?.map (fun q => (q.context, q.bytes, q.period)) = some (c, bytes, b.period c)
  | .closed => True

instance (b : RouterBooks κ) (e : LogEntry κ) : Decidable (b.Allows e) := by
  cases e <;> unfold RouterBooks.Allows <;> infer_instance

/-- The books with an entry read. -/
def RouterBooks.next (b : RouterBooks κ) : LogEntry κ → RouterBooks κ
  | .added c => { b with registered := Function.update b.registered c true }
  | .removed c => { b with registered := Function.update b.registered c false }
  | .up c => { b with
      up := Function.update b.up c true, period := Function.update b.period c (b.period c + 1) }
  | .down c => { b with up := Function.update b.up c false }
  | .queued c bytes => { b with queue := b.queue ++ [⟨c, bytes, b.period c⟩] }
  | .written _ => { b with writing := true }
  | .transmitResult _ _ => { b with queue := b.queue.tail, writing := false }
  | .closed => { b with queue := [], writing := false }

/-- The observer of the router, from the books and what they allow. -/
def routerObserver : Observer (RouterBooks κ) (LogEntry κ) where
  allows := RouterBooks.Allows
  next := RouterBooks.next

instance (b : RouterBooks κ) (e : LogEntry κ) : Decidable (routerObserver.allows b e) :=
  inferInstanceAs (Decidable (b.Allows e))

namespace LinkLayerRouter

/-- The books of the observer after the log. -/
def books (s : LinkLayerRouter κ) : RouterBooks κ := routerObserver.after .initial s.log

/-- The observer accepts the log. -/
def Observed (s : LinkLayerRouter κ) : Prop := routerObserver.Accepts .initial s.log

instance (s : LinkLayerRouter κ) : Decidable s.Observed :=
  inferInstanceAs (Decidable (routerObserver.Accepts .initial s.log))

theorem books_note (s : LinkLayerRouter κ) (e : LogEntry κ) :
    (s.note e).books = s.books.next e := routerObserver.after_concat _ s.log e

theorem Observed.note {s : LinkLayerRouter κ} (h : s.Observed) {e : LogEntry κ}
    (he : s.books.Allows e) : (s.note e).Observed := routerObserver.accepts_concat h he

/-! ## The invariant -/

/-- The observer's books are the router's. -/
structure Agrees (s : LinkLayerRouter κ) : Prop where
  registered : ∀ c, s.books.registered c = s.hasContext c
  up : ∀ c, s.books.up c = (s.sessions c).isOnline

/-- A frame in the queue whose context is in the up-period it queued the frame in. -/
structure LiveFrame (s : LinkLayerRouter κ) (q : QueuedFrame κ) (tx : Transmission κ) : Prop where
  context : q.context = tx.pContext
  bytes : q.bytes = s.content tx
  period : q.period = s.books.period tx.pContext
  online : (s.sessions tx.pContext).isOnline = true
  mode : (s.sessions tx.pContext).txMode = .of tx.primary
  registered : s.hasContext tx.pContext = true

/-- As long as the layer is not closing, every frame in the queue is live, no context has two, and
the router waits for the layer's write. -/
structure Live (s : LinkLayerRouter κ) : Prop where
  frames : List.Forall₂ s.LiveFrame s.books.queue s.transmitQueue
  distinct : (s.transmitQueue.map (·.pContext)).Nodup
  writing : s.books.writing = s.isTransmitting
  waiting : s.isTransmitting = s.pPhys.isWriting
  started : s.isTransmitting = true → s.transmitQueue ≠ []

/-- Nothing is queued while the router is offline. -/
def Quiet (s : LinkLayerRouter κ) : Prop :=
  s.isOnline = false → s.transmitQueue = [] ∧ s.isTransmitting = false ∧ s.books.queue = [] ∧
    s.books.writing = false

/-- The contexts that are online are those that are enabled while the router is. -/
def Served (s : LinkLayerRouter κ) : Prop :=
  ∀ c, (s.sessions c).isOnline = true ↔
    s.isOnline = true ∧ ∃ rec ∈ s.records, rec.pContext = c ∧ rec.enabled = true

/-- What holds of the frames and the books in every state, also inside the router's methods. -/
structure Coherent (s : LinkLayerRouter κ) : Prop where
  observed : s.Observed
  agrees : s.Agrees
  quiet : s.Quiet
  live : s.pPhys.isClosing = false → s.Live

/-- The part of it that does not depend on the frames being live. -/
structure Booked (s : LinkLayerRouter κ) : Prop where
  observed : s.Observed
  agrees : s.Agrees
  quiet : s.Quiet

theorem Coherent.booked {s : LinkLayerRouter κ} (h : s.Coherent) : s.Booked :=
  ⟨h.observed, h.agrees, h.quiet⟩

theorem Booked.coherent {s : LinkLayerRouter κ} (h : s.Booked)
    (hlive : s.pPhys.isClosing = false → s.Live) : s.Coherent :=
  ⟨h.observed, h.agrees, h.quiet, hlive⟩

/-- Records and monitor are left as they are; the layer may have been given a write. -/
structure Framed (s t : LinkLayerRouter κ) : Prop where
  records : t.records = s.records
  isOnline : t.isOnline = s.isOnline
  mpState : t.mpState = s.mpState
  pPhys : t.pPhys = s.pPhys ∨
    s.pPhys.canWrite = true ∧ t.pPhys = { s.pPhys with isWriting := true }

/-- What the transmissions of a context leave as it is. -/
structure Kept (s t : LinkLayerRouter κ) : Prop extends Framed s t where
  online : ∀ c, (t.sessions c).isOnline = (s.sessions c).isOnline

section

omit [DecidableEq κ]

theorem Framed.trans {s t u : LinkLayerRouter κ} (h : s.Framed t) (h' : t.Framed u) :
    s.Framed u := by
  refine ⟨h'.records.trans h.records, h'.isOnline.trans h.isOnline, h'.mpState.trans h.mpState, ?_⟩
  rcases h.pPhys with hp | ⟨hw, hp⟩ <;> rcases h'.pPhys with hp' | ⟨hw', hp'⟩
  · exact .inl (hp'.trans hp)
  · rw [hp] at hw' hp'
    exact .inr ⟨hw', hp'⟩
  · exact .inr ⟨hw, hp'.trans hp⟩
  · rw [hp, PhysicalLayer.canWrite] at hw'
    simp at hw'

theorem Framed.isClosing {s t : LinkLayerRouter κ} (h : s.Framed t) :
    t.pPhys.isClosing = s.pPhys.isClosing := by
  rcases h.pPhys with hp | ⟨_, hp⟩ <;> rw [hp]

theorem Framed.refl (s : LinkLayerRouter κ) : s.Framed s := ⟨rfl, rfl, rfl, .inl rfl⟩

theorem Kept.refl (s : LinkLayerRouter κ) : s.Kept s := ⟨.refl s, fun _ => rfl⟩

theorem Kept.trans {s t u : LinkLayerRouter κ} (h : s.Kept t) (h' : t.Kept u) : s.Kept u :=
  ⟨h.toFramed.trans h'.toFramed, fun c => (h'.online c).trans (h.online c)⟩

theorem Served.of_kept {s t : LinkLayerRouter κ} (hs : s.Served) (h : s.Kept t) : t.Served := by
  intro c
  rw [h.online, h.isOnline, h.records]
  exact hs c

end

theorem Framed.hasContext {s t : LinkLayerRouter κ} (h : s.Framed t) (c : κ) :
    t.hasContext c = s.hasContext c := by
  rw [LinkLayerRouter.hasContext, h.records, LinkLayerRouter.hasContext]

/-- The context of a frame in the queue awaits its transmission. -/
theorem mode_of_mem {s : LinkLayerRouter κ} {queue : List (QueuedFrame κ)}
    {txs : List (Transmission κ)} (h : List.Forall₂ s.LiveFrame queue txs) {tx : Transmission κ}
    (htx : tx ∈ txs) : (s.sessions tx.pContext).txMode = .of tx.primary := by
  induction h with
  | nil => cases htx
  | cons hframe hrest ih =>
    rcases List.mem_cons.mp htx with rfl | htx
    · exact hframe.mode
    · exact ih htx

/-! ## Changing a session -/

/-- Live frames stay live when, of each, nothing it is about changes. -/
theorem forall₂_liveFrame_imp {s t : LinkLayerRouter κ} {queue : List (QueuedFrame κ)}
    {txs : List (Transmission κ)} (h : List.Forall₂ s.LiveFrame queue txs)
    (himp : ∀ q, ∀ tx ∈ txs, s.LiveFrame q tx → t.LiveFrame q tx) :
    List.Forall₂ t.LiveFrame queue txs := by
  induction h with
  | nil => exact .nil
  | cons hframe hrest ih =>
    exact .cons (himp _ _ List.mem_cons_self hframe)
      (ih fun q tx htx => himp q tx (List.mem_cons_of_mem _ htx))

@[simp] theorem setSession_same (s : LinkLayerRouter κ) (c : κ) (x : LinkSession) :
    (s.setSession c x).sessions c = x := Function.update_self ..

theorem setSession_of_ne (s : LinkLayerRouter κ) {c d : κ} (x : LinkSession) (h : d ≠ c) :
    (s.setSession c x).sessions d = s.sessions d := Function.update_of_ne h ..

/-- A session that stays online or offline may change what no live frame refers to. -/
theorem Coherent.setSession {s : LinkLayerRouter κ} (h : s.Coherent) {c : κ} {x : LinkSession}
    (honline : x.isOnline = (s.sessions c).isOnline)
    (hframes : s.pPhys.isClosing = false → ∀ tx ∈ s.transmitQueue, tx.pContext = c →
      x.txMode = (s.sessions c).txMode ∧
        x.txBuffer tx.primary = (s.sessions c).txBuffer tx.primary) :
    (s.setSession c x).Coherent := by
  refine ⟨h.observed, ⟨h.agrees.registered, fun d => ?_⟩, h.quiet, fun hclosing => ?_⟩
  · rw [show (s.setSession c x).books = s.books from rfl, h.agrees.up]
    by_cases hd : d = c
    · rw [hd, setSession_same, honline]
    · rw [setSession_of_ne s x hd]
  · have hlive := h.live hclosing
    refine ⟨?_, hlive.distinct, hlive.writing, hlive.waiting, hlive.started⟩
    refine forall₂_liveFrame_imp hlive.frames fun q tx htx hframe => ?_
    have hsame := hframes hclosing tx htx
    by_cases hc : tx.pContext = c
    · obtain ⟨hmode, hbuffer⟩ := hsame hc
      have hat : (s.setSession c x).sessions tx.pContext = x := by
        rw [hc, setSession_same]
      refine ⟨hframe.context, ?_, hframe.period, ?_, ?_, hframe.registered⟩
      · rw [hframe.bytes, content, content, hat, hbuffer, hc]
      · rw [hat, honline, ← hc]
        exact hframe.online
      · rw [hat, hmode, ← hc]
        exact hframe.mode
    · have hat : (s.setSession c x).sessions tx.pContext = s.sessions tx.pContext :=
        setSession_of_ne s x hc
      refine ⟨hframe.context, ?_, hframe.period, ?_, ?_, hframe.registered⟩
      · rw [hframe.bytes, content, content, hat]
      · rw [hat]
        exact hframe.online
      · rw [hat]
        exact hframe.mode

theorem kept_setSession (s : LinkLayerRouter κ) {c : κ} {x : LinkSession}
    (honline : x.isOnline = (s.sessions c).isOnline) : s.Kept (s.setSession c x) := by
  refine ⟨⟨rfl, rfl, rfl, .inl rfl⟩, fun d => ?_⟩
  by_cases hd : d = c
  · rw [hd, setSession_same, honline]
  · rw [setSession_of_ne s x hd]

/-! ## Transmitting -/

omit [DecidableEq κ] in
theorem kept_checkForSend (s : LinkLayerRouter κ) : s.Kept s.checkForSend := by
  unfold checkForSend
  split
  · exact .refl s
  · split
    · rename_i hsend
      rw [Bool.and_eq_true] at hsend
      exact ⟨⟨rfl, rfl, rfl, .inr ⟨hsend.2, rfl⟩⟩, fun _ => rfl⟩
    · exact .refl s

/-- The first frame may be written when nothing is being written. -/
theorem Coherent.checkForSend {s : LinkLayerRouter κ} (h : s.Coherent) :
    s.checkForSend.Coherent := by
  unfold LinkLayerRouter.checkForSend
  split
  · exact h
  · rename_i tx rest hqueue
    split
    · rename_i hsend
      simp only [Bool.and_eq_true, Bool.not_eq_true', PhysicalLayer.canWrite] at hsend
      obtain ⟨hidle, ⟨hopen, hclosing⟩, hphys⟩ := hsend
      have hlive := h.live hclosing
      have hframes := hlive.frames
      have hwriting : s.books.writing = false := hlive.writing.trans hidle
      have hbooks : s.books.queue.head?.map (·.bytes) = some (s.content tx) := by
        rw [hqueue] at hframes
        generalize s.books.queue = queue at hframes
        cases hframes with
        | cons hframe hrest => exact congrArg some hframe.bytes
      refine ⟨h.observed.note ⟨hwriting, hbooks⟩, ?_, fun hoff => ?_, fun _ => ?_⟩
      · refine ⟨fun c => ?_, fun c => ?_⟩
        · rw [books_note]
          exact h.agrees.registered c
        · rw [books_note]
          exact h.agrees.up c
      · have hnil := (h.quiet hoff).1
        rw [hqueue] at hnil
        exact absurd hnil (List.cons_ne_nil _ _)
      · refine ⟨?_, hlive.distinct, ?_, rfl, fun _ => ?_⟩
        · rw [books_note]
          refine forall₂_liveFrame_imp hframes fun q tx' _ hframe => ?_
          refine ⟨hframe.context, hframe.bytes, ?_, hframe.online, hframe.mode, hframe.registered⟩
          rw [books_note]
          exact hframe.period
        · rw [books_note]
          rfl
        · show s.transmitQueue ≠ []
          rw [hqueue]
          exact List.cons_ne_nil _ _
    · exact h

omit [DecidableEq κ] in
theorem kept_beginTransmit (s : LinkLayerRouter κ) (c : κ) (primary : Bool) :
    s.Kept (s.beginTransmit c primary) := by
  unfold beginTransmit
  split
  · have hqueued : s.Kept (s.enqueue { pContext := c, primary := primary }) :=
      ⟨⟨rfl, rfl, rfl, .inl rfl⟩, fun _ => rfl⟩
    exact hqueued.trans (kept_checkForSend _)
  · exact .refl s

theorem enqueue_books (s : LinkLayerRouter κ) (tx : Transmission κ) :
    (s.enqueue tx).books = s.books.next (.queued tx.pContext (s.content tx)) := books_note _ _

/-- A frame is queued in the mode that goes with it, by a context that has none in the queue. -/
theorem Coherent.enqueue {s : LinkLayerRouter κ} (h : s.Coherent) (hup : s.isOnline = true)
    {tx : Transmission κ} (hregistered : s.hasContext tx.pContext = true)
    (honline : (s.sessions tx.pContext).isOnline = true)
    (hmode : (s.sessions tx.pContext).txMode = .of tx.primary)
    (hnone : s.pPhys.isClosing = false → ∀ tx' ∈ s.transmitQueue, tx'.pContext ≠ tx.pContext) :
    (s.enqueue tx).Coherent := by
  refine ⟨h.observed.note trivial, ⟨fun d => ?_, fun d => ?_⟩, fun hoff => ?_, fun hclosing => ?_⟩
  · rw [enqueue_books]
    exact h.agrees.registered d
  · rw [enqueue_books]
    exact h.agrees.up d
  · have hoff' : s.isOnline = false := hoff
    rw [hup] at hoff'
    exact absurd hoff' (by decide)
  · have hlive := h.live hclosing
    refine ⟨?_, ?_, ?_, hlive.waiting, fun _ => List.append_ne_nil_of_right_ne_nil _ (by simp)⟩
    · rw [enqueue_books]
      refine List.rel_append ?_ ?_
      · refine forall₂_liveFrame_imp hlive.frames fun q tx' _ hframe => ?_
        refine ⟨hframe.context, hframe.bytes, ?_, hframe.online, hframe.mode, hframe.registered⟩
        rw [enqueue_books]
        exact hframe.period
      · refine .cons ⟨rfl, rfl, ?_, honline, hmode, hregistered⟩ .nil
        rw [enqueue_books]
        rfl
    · have hfresh : tx.pContext ∉ s.transmitQueue.map (·.pContext) := fun hmem => by
        obtain ⟨tx', htx, hc⟩ := List.mem_map.mp hmem
        exact hnone hclosing tx' htx hc
      show ((s.transmitQueue ++ [tx]).map (·.pContext)).Nodup
      rw [List.map_append, List.nodup_append]
      refine ⟨hlive.distinct, by simp, ?_⟩
      rintro a ha b hb rfl
      rw [List.map_singleton, List.mem_singleton] at hb
      exact hfresh (hb ▸ ha)
    · rw [enqueue_books]
      exact hlive.writing

/-- A context without a frame in the queue may have one queued. -/
theorem Coherent.beginTransmit {s : LinkLayerRouter κ} (h : s.Coherent) {c : κ} {primary : Bool}
    (hregistered : s.hasContext c = true) (honline : (s.sessions c).isOnline = true)
    (hmode : (s.sessions c).txMode = .of primary)
    (hnone : s.pPhys.isClosing = false → ∀ tx ∈ s.transmitQueue, tx.pContext ≠ c) :
    (s.beginTransmit c primary).Coherent := by
  unfold LinkLayerRouter.beginTransmit
  split
  · rename_i hup
    exact (h.enqueue hup hregistered honline hmode hnone).checkForSend
  · exact h

/-- A context in the idle mode has no live frame in the queue. -/
theorem Coherent.none_of_idle {s : LinkLayerRouter κ} (h : s.Coherent) {c : κ}
    (hidle : (s.sessions c).txMode = .idle) (hclosing : s.pPhys.isClosing = false) :
    ∀ tx ∈ s.transmitQueue, tx.pContext ≠ c := by
  rintro tx htx rfl
  have hmode := mode_of_mem (h.live hclosing).frames htx
  rw [hidle, LinkTransmitMode.of] at hmode
  split at hmode <;> cases hmode

theorem kept_queueTransmit (s : LinkLayerRouter κ) (c : κ) (primary : Bool) :
    s.Kept (s.queueTransmit c primary) := by
  unfold queueTransmit
  split
  · have hset : s.Kept (s.setSession c ((s.sessions c).setMode (.of primary))) :=
      kept_setSession s rfl
    exact hset.trans (kept_beginTransmit _ c primary)
  · exact kept_setSession s rfl

/-- A formatted frame goes into the queue, or stays pending. -/
theorem Coherent.queueTransmit {s : LinkLayerRouter κ} (h : s.Coherent) {c : κ} {primary : Bool}
    (hregistered : s.hasContext c = true) (honline : (s.sessions c).isOnline = true) :
    (s.queueTransmit c primary).Coherent := by
  unfold LinkLayerRouter.queueTransmit
  split
  · rename_i hidle
    have hnone := fun hclosing => h.none_of_idle hidle hclosing
    have hset : (s.setSession c ((s.sessions c).setMode (.of primary))).Coherent :=
      h.setSession rfl fun hclosing tx htx hc => absurd hc (hnone hclosing tx htx)
    refine hset.beginTransmit hregistered ?_ ?_ hnone
    · rw [setSession_same]
      exact honline
    · rw [setSession_same]
      rfl
  · exact h.setSession rfl fun _ _ _ _ => ⟨rfl, rfl⟩

theorem kept_transmit (s : LinkLayerRouter κ) (c : κ) (f : Link.Format) :
    s.Kept (s.transmit c f) := by
  unfold transmit
  split
  · have hset : s.Kept (s.setSession c ((s.sessions c).format f)) := kept_setSession s rfl
    exact hset.trans (kept_queueTransmit _ c _)
  · exact .refl s

/-- A context formats a frame in the buffer that is not in the queue. -/
theorem Coherent.transmit {s : LinkLayerRouter κ} (h : s.Coherent) (c : κ) (f : Link.Format) :
    (s.transmit c f).Coherent := by
  unfold LinkLayerRouter.transmit
  split
  · rename_i hready
    simp only [Bool.and_eq_true, Bool.not_eq_true', LinkSession.inTransmitWait, Bool.or_eq_false_iff,
      beq_eq_false_iff_ne] at hready
    obtain ⟨⟨hregistered, honline⟩, hmode, _⟩ := hready
    have hset : (s.setSession c ((s.sessions c).format f)).Coherent := by
      refine h.setSession rfl fun hclosing tx htx hc => ⟨rfl, ?_⟩
      refine Function.update_of_ne ?_ _ _
      intro hprimary
      have htxMode := mode_of_mem (h.live hclosing).frames htx
      rw [hc, hprimary] at htxMode
      exact hmode htxMode
    exact hset.queueTransmit hregistered (by rw [setSession_same]; exact honline)
  · exact h

theorem kept_transmitAll (s : LinkLayerRouter κ) (c : κ) (frames : List Link.Format) :
    s.Kept (s.transmitAll c frames) := by
  unfold transmitAll
  induction frames generalizing s with
  | nil => exact .refl s
  | cons f frames ih => exact (kept_transmit s c f).trans (ih _)

theorem Coherent.transmitAll {s : LinkLayerRouter κ} (h : s.Coherent) (c : κ)
    (frames : List Link.Format) : (s.transmitAll c frames).Coherent := by
  unfold LinkLayerRouter.transmitAll
  induction frames generalizing s with
  | nil => exact h
  | cons f frames ih => exact ih (h.transmit c f)

/-! ## The result of a write -/

theorem kept_tryPendingTx (s : LinkLayerRouter κ) (c : κ) (primary : Bool) :
    s.Kept (s.tryPendingTx c primary) := by
  unfold tryPendingTx
  split
  · exact (kept_beginTransmit s c primary).trans (kept_setSession _ rfl)
  · exact .refl s

theorem content_setSession (s : LinkLayerRouter κ) {c : κ} {x : LinkSession}
    (hbuffer : x.txBuffer = (s.sessions c).txBuffer) (tx : Transmission κ) :
    (s.setSession c x).content tx = s.content tx := by
  rw [content, content]
  by_cases hc : tx.pContext = c
  · rw [hc, setSession_same, hbuffer]
  · rw [setSession_of_ne s x hc]

theorem checkForSend_setSession (s : LinkLayerRouter κ) {c : κ} {x : LinkSession}
    (hbuffer : x.txBuffer = (s.sessions c).txBuffer) :
    s.checkForSend.setSession c x = (s.setSession c x).checkForSend := by
  have hcontent := content_setSession s hbuffer
  unfold checkForSend
  rw [show (s.setSession c x).transmitQueue = s.transmitQueue from rfl]
  cases hqueue : s.transmitQueue with
  | nil => rfl
  | cons tx rest =>
    simp only [hcontent]
    by_cases hsend : (!s.isTransmitting && s.pPhys.canWrite) = true
    · rw [if_pos hsend]
      exact (if_pos hsend).symm
    · rw [if_neg hsend]
      exact (if_neg hsend).symm

/-- Beginning a transmission does not look at the mode or at what is pending. -/
theorem beginTransmit_setSession (s : LinkLayerRouter κ) (c : κ) (primary : Bool)
    {x : LinkSession} (hbuffer : x.txBuffer = (s.sessions c).txBuffer) :
    (s.beginTransmit c primary).setSession c x = (s.setSession c x).beginTransmit c primary := by
  unfold beginTransmit
  rw [show (s.setSession c x).isOnline = s.isOnline from rfl]
  by_cases honline : s.isOnline = true
  · rw [if_pos honline, if_pos honline, checkForSend_setSession (s.enqueue ⟨c, primary⟩) hbuffer]
    unfold enqueue
    rw [content_setSession s hbuffer]
    rfl
  · rw [if_neg honline, if_neg honline]

omit [DecidableEq κ] in
theorem sessions_beginTransmit (s : LinkLayerRouter κ) (c : κ) (primary : Bool) :
    (s.beginTransmit c primary).sessions = s.sessions := by
  unfold beginTransmit
  split
  · unfold checkForSend
    split
    · rfl
    · split <;> rfl
  · rfl

/-- A pending frame may be queued when the transmitter is free. -/
theorem Coherent.tryPendingTx {s : LinkLayerRouter κ} (h : s.Coherent) {c : κ} (primary : Bool)
    (hregistered : s.hasContext c = true) (honline : (s.sessions c).isOnline = true) :
    (s.tryPendingTx c primary).Coherent := by
  unfold LinkLayerRouter.tryPendingTx
  split
  · rename_i hready
    have hnone := fun hclosing => h.none_of_idle hready.1 hclosing
    simp only
    rw [sessions_beginTransmit, beginTransmit_setSession s c primary (by rfl)]
    have hset : (s.setSession c
        (((s.sessions c).setPending primary false).setMode (.of primary))).Coherent :=
      h.setSession rfl fun hclosing tx htx hc => absurd hc (hnone hclosing tx htx)
    refine hset.beginTransmit hregistered ?_ ?_ hnone
    · rw [setSession_same]
      exact honline
    · rw [setSession_same]
      rfl
  · exact h

theorem kept_onTransmitResult (s : LinkLayerRouter κ) (c : κ) (frames : List Link.Format) :
    s.Kept (s.onTransmitResult c frames) := by
  unfold onTransmitResult
  split
  · exact .refl s
  · have hset : s.Kept (s.setSession c ((s.sessions c).setMode .idle)) := kept_setSession s rfl
    exact ((hset.trans (kept_tryPendingTx _ c false)).trans (kept_tryPendingTx _ c true)).trans
      (kept_transmitAll _ c frames)

/-- A context whose frame has left the queue takes its result. -/
theorem Coherent.onTransmitResult {s : LinkLayerRouter κ} (h : s.Coherent) {c : κ}
    (frames : List Link.Format) (hregistered : s.hasContext c = true)
    (honline : (s.sessions c).isOnline = true)
    (hnone : s.pPhys.isClosing = false → ∀ tx ∈ s.transmitQueue, tx.pContext ≠ c) :
    (s.onTransmitResult c frames).Coherent := by
  unfold LinkLayerRouter.onTransmitResult
  split
  · exact h
  · have hset : (s.setSession c ((s.sessions c).setMode .idle)).Coherent :=
      h.setSession rfl fun hclosing tx htx hc => absurd hc (hnone hclosing tx htx)
    have hkept : s.Kept (s.setSession c ((s.sessions c).setMode .idle)) := kept_setSession s rfl
    have hfirst := hset.tryPendingTx (c := c) false ((hkept.hasContext c).trans hregistered)
      ((hkept.online c).trans honline)
    have hkept' := hkept.trans (kept_tryPendingTx _ c false)
    have hsecond := hfirst.tryPendingTx (c := c) true ((hkept'.hasContext c).trans hregistered)
      ((hkept'.online c).trans honline)
    exact hsecond.transmitAll c frames

/-- The write that was waited for is done. -/
def written (s : LinkLayerRouter κ) : LinkLayerRouter κ := { s with pPhys.isWriting := false }

/-- The result goes to the context of the first frame. -/
theorem Coherent.onSendResult {s : LinkLayerRouter κ} (h : s.Coherent) (frames : List Link.Format)
    (hclosing : s.pPhys.isClosing = false) (hwriting : s.pPhys.isWriting = true)
    (hopen : s.isOnline = true) : (s.written.onSendResult frames).Coherent := by
  have hlive := h.live hclosing
  have htransmitting : s.isTransmitting = true := hlive.waiting.trans hwriting
  unfold LinkLayerRouter.onSendResult
  rw [show s.written.transmitQueue = s.transmitQueue from rfl]
  have hframes := hlive.frames
  have hdistinct := hlive.distinct
  have hstarted := hlive.started htransmitting
  cases hqueue : s.transmitQueue with
  | nil => exact absurd hqueue hstarted
  | cons tx rest =>
    rw [hqueue] at hframes hdistinct
    rw [List.map_cons, List.nodup_cons] at hdistinct
    cases hbooks : s.books.queue with
    | nil =>
      rw [hbooks] at hframes
      cases hframes
    | cons q queue =>
      rw [hbooks] at hframes
      rcases List.forall₂_cons.mp hframes with ⟨hframe, hrest⟩
      refine Coherent.checkForSend (Coherent.onTransmitResult ?_ frames hframe.registered
        hframe.online ?_)
      · refine ⟨h.observed.note ⟨?_, ?_, ?_, ?_⟩, ⟨fun d => ?_, fun d => ?_⟩, fun hoff => ?_,
          fun _ => ⟨?_, hdistinct.2, ?_, rfl, fun hfalse => absurd hfalse Bool.false_ne_true⟩⟩
        · exact hlive.writing.trans htransmitting
        · exact (h.agrees.registered _).trans hframe.registered
        · exact (h.agrees.up _).trans hframe.online
        · show (s.books.queue.head?.map fun q => (q.context, q.bytes, q.period)) = _
          rw [hbooks]
          exact congrArg some (Prod.ext hframe.context (Prod.ext hframe.bytes hframe.period))
        · rw [books_note]
          exact h.agrees.registered d
        · rw [books_note]
          exact h.agrees.up d
        · have hoff' : s.isOnline = false := hoff
          rw [hopen] at hoff'
          exact absurd hoff' (by decide)
        · rw [books_note]
          show List.Forall₂ _ s.books.queue.tail rest
          rw [hbooks]
          refine forall₂_liveFrame_imp hrest fun q' tx' _ hframe' => ?_
          refine ⟨hframe'.context, hframe'.bytes, ?_, hframe'.online, hframe'.mode,
            hframe'.registered⟩
          rw [books_note]
          exact hframe'.period
        · rw [books_note]
          rfl
      · rintro _ tx' htx' hc
        exact hdistinct.1 (List.mem_map.mpr ⟨tx', htx', hc⟩)

/-! ## Contexts go up and down -/

theorem framed_lowerLayerUp (s : LinkLayerRouter κ) (c : κ) (frames : List Link.Format) :
    s.Framed (s.lowerLayerUp c frames) := by
  have hnote : s.Framed (s.note (.up c)) := ⟨rfl, rfl, rfl, .inl rfl⟩
  unfold lowerLayerUp
  simp only
  split
  · exact hnote
  · have hset : (s.note (.up c)).Framed ((s.note (.up c)).setSession c
        { (s.note (.up c)).sessions c with isOnline := true }) := ⟨rfl, rfl, rfl, .inl rfl⟩
    exact (hnote.trans hset).trans (kept_transmitAll _ c frames).toFramed

/-- The context goes up, and the others are as they were. -/
theorem online_lowerLayerUp (s : LinkLayerRouter κ) (c : κ) (frames : List Link.Format) (d : κ) :
    ((s.lowerLayerUp c frames).sessions d).isOnline = true ↔
      d = c ∨ (s.sessions d).isOnline = true := by
  unfold lowerLayerUp
  simp only
  split
  · rename_i honline
    refine ⟨.inr, fun h => ?_⟩
    rcases h with rfl | h
    · exact honline
    · exact h
  · rw [(kept_transmitAll _ c frames).online]
    by_cases hd : d = c
    · rw [hd, setSession_same]
      exact ⟨fun _ => .inl rfl, fun _ => rfl⟩
    · rw [setSession_of_ne _ _ hd]
      exact ⟨.inr, fun h => h.resolve_left hd⟩

/-- A registered context that is down comes up. -/
theorem Coherent.lowerLayerUp {s : LinkLayerRouter κ} (h : s.Coherent) {c : κ}
    (frames : List Link.Format) (hregistered : s.hasContext c = true)
    (hdown : (s.sessions c).isOnline = false) : (s.lowerLayerUp c frames).Coherent := by
  unfold LinkLayerRouter.lowerLayerUp
  simp only
  rw [show (s.note (.up c)).sessions = s.sessions from rfl, if_neg (by rw [hdown]; decide)]
  refine Coherent.transmitAll (s := (s.note (.up c)).setSession c
    { s.sessions c with isOnline := true }) ⟨h.observed.note (e := .up c) ⟨?_, ?_⟩,
      ⟨fun d => ?_, fun d => ?_⟩, fun hoff => ?_, fun hclosing => ?_⟩ c frames
  · exact (h.agrees.registered c).trans hregistered
  · exact (h.agrees.up c).trans hdown
  · show (s.note (.up c)).books.registered d = _
    rw [books_note]
    exact h.agrees.registered d
  · show (s.note (.up c)).books.up d = _
    rw [books_note]
    by_cases hd : d = c
    · rw [hd, setSession_same]
      exact Function.update_self ..
    · rw [setSession_of_ne _ _ hd]
      exact (Function.update_of_ne hd ..).trans (h.agrees.up d)
  · have hquiet := h.quiet hoff
    show _ ∧ _ ∧ (s.note (.up c)).books.queue = [] ∧ (s.note (.up c)).books.writing = false
    rw [books_note]
    exact hquiet
  · have hlive := h.live hclosing
    refine ⟨?_, hlive.distinct, ?_, hlive.waiting, hlive.started⟩
    · show List.Forall₂ _ (s.note (.up c)).books.queue s.transmitQueue
      rw [books_note]
      refine forall₂_liveFrame_imp hlive.frames fun q tx _ hframe => ?_
      have hc : tx.pContext ≠ c := fun hc => by
        have honline := hframe.online
        rw [hc, hdown] at honline
        cases honline
      have hat : ((s.note (.up c)).setSession c { s.sessions c with isOnline := true }).sessions
          tx.pContext = s.sessions tx.pContext := setSession_of_ne _ _ hc
      refine ⟨hframe.context, ?_, ?_, ?_, ?_, hframe.registered⟩
      · rw [hframe.bytes, content, content, hat]
      · show q.period = (s.note (.up c)).books.period tx.pContext
        rw [books_note]
        exact hframe.period.trans (Function.update_of_ne hc ..).symm
      · rw [hat]
        exact hframe.online
      · rw [hat]
        exact hframe.mode
    · show (s.note (.up c)).books.writing = _
      rw [books_note]
      exact hlive.writing

theorem framed_lowerLayerDown (s : LinkLayerRouter κ) (c : κ) : s.Framed (s.lowerLayerDown c) :=
  ⟨rfl, rfl, rfl, .inl rfl⟩

/-- The context goes down, and the others are as they were. -/
theorem online_lowerLayerDown (s : LinkLayerRouter κ) (c d : κ) :
    ((s.lowerLayerDown c).sessions d).isOnline = true ↔
      d ≠ c ∧ (s.sessions d).isOnline = true := by
  unfold lowerLayerDown
  by_cases hd : d = c
  · rw [hd, setSession_same, LinkSession.down]
    split <;> simp_all
  · rw [setSession_of_ne _ _ hd]
    exact ⟨fun h => ⟨hd, h⟩, fun h => h.2⟩

/-- The books go along when a context that is up goes down. -/
theorem Booked.lowerLayerDown {s : LinkLayerRouter κ} (h : s.Booked) {c : κ}
    (hup : (s.sessions c).isOnline = true) : (s.lowerLayerDown c).Booked := by
  have hbooks : (s.lowerLayerDown c).books = s.books.next (.down c) := books_note s _
  refine ⟨h.observed.note ?_, ⟨fun d => ?_, fun d => ?_⟩, fun hoff => ?_⟩
  · exact (h.agrees.up c).trans hup
  · rw [hbooks]
    exact h.agrees.registered d
  · rw [hbooks]
    by_cases hd : d = c
    · have hdown : ((s.lowerLayerDown c).sessions d).isOnline = false :=
        Bool.eq_false_iff.mpr fun honline => ((online_lowerLayerDown s c d).mp honline).1 hd
      rw [hdown, hd]
      exact Function.update_self ..
    · have hat : (s.lowerLayerDown c).sessions d = s.sessions d := setSession_of_ne _ _ hd
      rw [hat]
      exact (Function.update_of_ne hd ..).trans (h.agrees.up d)
  · rw [hbooks]
    exact h.quiet hoff

/-- The frames stay live when the context that goes down has none. -/
theorem Live.lowerLayerDown {s : LinkLayerRouter κ} (h : s.Live) {c : κ}
    (hnone : ∀ tx ∈ s.transmitQueue, tx.pContext ≠ c) : (s.lowerLayerDown c).Live := by
  have hbooks : (s.lowerLayerDown c).books = s.books.next (.down c) := books_note s _
  refine ⟨?_, h.distinct, ?_, h.waiting, h.started⟩
  · rw [hbooks]
    refine forall₂_liveFrame_imp h.frames fun q tx htx hframe => ?_
    have hat : (s.lowerLayerDown c).sessions tx.pContext = s.sessions tx.pContext :=
      setSession_of_ne _ _ (hnone tx htx)
    refine ⟨hframe.context, ?_, ?_, ?_, ?_, hframe.registered⟩
    · rw [hframe.bytes, content, content, hat]
    · rw [hbooks]
      exact hframe.period
    · rw [hat]
      exact hframe.online
    · rw [hat]
      exact hframe.mode
  · rw [hbooks]
    exact h.writing

end LinkLayerRouter
end Asiodnp3
end Dnp3
