import Dnp3.Library.Observer
import Dnp3.Library.Runs
import Mathlib.Logic.Function.Basic

/-!
# The task lock of a channel

The masters of a channel share a lock, so that one of them runs a task at a time.  The model is the
lock with the part of each master that calls it: whether the master is online, the state of its
task, and the calls a master makes when it goes up or down, looks for a task, gets a response or
times out.

An observer of the calls knows who is online, who holds the lock and who waits for it, in the order
they were refused.  The lock does what the observer asks, and is in the state the observer expects,
exactly as long as the masters go down together: the lock has one flag for its channel, and the
first master that goes down clears it for all.
-/

namespace Dnp3
namespace Master

open Library

/-! ## The lock -/

/-- `MultidropTaskLock`. -/
structure MultidropTaskLock (μ : Type) where
  callbackSet : μ → Bool
  callbackQueue : List μ
  isOnline : Bool
  pActive : Option μ

namespace MultidropTaskLock

variable {μ : Type}

/-- Nobody holds the lock, and the channel is offline. -/
def initial : MultidropTaskLock μ :=
  { callbackSet := fun _ => false, callbackQueue := [], isOnline := false, pActive := none }

variable [DecidableEq μ]

/-- A master waits behind the others, once. -/
def addIfNotContained (l : MultidropTaskLock μ) (callback : μ) : MultidropTaskLock μ :=
  if l.callbackSet callback then l
  else
    { l with
      callbackSet := Function.update l.callbackSet callback true
      callbackQueue := l.callbackQueue ++ [callback] }

/-- Take the lock, or wait for it. -/
def acquire (l : MultidropTaskLock μ) (callback : μ) : MultidropTaskLock μ × Bool :=
  if l.isOnline then
    match l.pActive with
    | some active =>
      if callback = active then (l, true) else (l.addIfNotContained callback, false)
    | none => ({ l with pActive := some callback }, true)
  else (l, false)

/-- Release the lock; the result is the master whose `OnPendingTask` is called. -/
def release (l : MultidropTaskLock μ) (callback : μ) : MultidropTaskLock μ × Option μ :=
  if l.isOnline && l.pActive == some callback then
    match l.callbackQueue with
    | [] => ({ l with pActive := none }, none)
    | front :: rest =>
      ({ l with
          pActive := some front
          callbackQueue := rest
          callbackSet := Function.update l.callbackSet front false }, some front)
  else (l, none)

/-- The channel is online. -/
def onLayerUp (l : MultidropTaskLock μ) : MultidropTaskLock μ := { l with isOnline := true }

/-- The channel is offline, and nobody holds the lock or waits for it. -/
def onLayerDown (l : MultidropTaskLock μ) : MultidropTaskLock μ :=
  if l.isOnline then
    { l with
      isOnline := false, pActive := none, callbackSet := fun _ => false, callbackQueue := [] }
  else l

end MultidropTaskLock

/-! ## The masters -/

/-- What a master does with its task. -/
inductive TaskState where
  | idle
  | taskReady
  | waitForResponse
  deriving DecidableEq, Repr

/-- The part of an `MContext` that its use of the lock depends on. -/
structure MasterTask where
  isOnline : Bool
  tstate : TaskState
  /-- `pActiveTask.IsDefined()`. -/
  pActiveTask : Bool
  deriving DecidableEq, Repr

/-- What the active task makes of a response. -/
inductive TaskResult where
  | okContinue
  /-- The task sends again; whether the master is still sending, and whether the request can be
  built. -/
  | okRepeat (isSending built : Bool)
  /-- The task has completed or failed. -/
  | done
  deriving DecidableEq, Repr

/-- A call of the lock, with its answer. -/
inductive LockCall (μ : Type) where
  | up (m : μ)
  | down (m : μ)
  | acquire (m : μ) (granted : Bool)
  | release (m : μ)
  /-- `OnPendingTask` is called: the lock has passed to the master. -/
  | pending (m : μ)
  deriving DecidableEq, Repr

/-- The lock of a channel and its masters, with the calls made so far. -/
structure SharedLock (μ : Type) where
  lock : MultidropTaskLock μ
  masters : μ → MasterTask
  log : List (LockCall μ)

namespace SharedLock

variable {μ : Type} [DecidableEq μ]

/-- All masters are offline. -/
def initial : SharedLock μ where
  lock := .initial
  masters := fun _ => { isOnline := false, tstate := .idle, pActiveTask := false }
  log := []

/-- Remember a call. -/
def note (s : SharedLock μ) (call : LockCall μ) : SharedLock μ := { s with log := s.log ++ [call] }

/-- One master changes. -/
def setMaster (s : SharedLock μ) (m : μ) (x : MasterTask) : SharedLock μ :=
  { s with masters := Function.update s.masters m x }

/-- The task of a master goes to a state. -/
def setState (s : SharedLock μ) (m : μ) (tstate : TaskState) : SharedLock μ :=
  s.setMaster m { s.masters m with tstate := tstate }

/-- A master gives the lock back, and the next one is told. -/
def release (s : SharedLock μ) (m : μ) : SharedLock μ :=
  let (lock, next) := s.lock.release m
  let s := ({ s with lock := lock }).note (.release m)
  match next with
  | none => s
  | some n => s.note (.pending n)

/-- The task of a master is done with, and the lock is given back. -/
def completeActiveTask (s : SharedLock μ) (m : μ) : SharedLock μ :=
  if (s.masters m).pActiveTask then
    (s.setMaster m { s.masters m with pActiveTask := false }).release m
  else s

/-- `ResumeActiveTask`, with the state the master goes to. -/
def resumeActiveTask (s : SharedLock μ) (m : μ) (built : Bool) : SharedLock μ × TaskState :=
  let (lock, granted) := s.lock.acquire m
  let s := ({ s with lock := lock }).note (.acquire m granted)
  if !granted then (s, .taskReady)
  else if !built then (s.completeActiveTask m, .idle)
  else (s, .waitForResponse)

/-- Send the request of a task that was begun, if nothing is being sent. -/
def startTaskReady (s : SharedLock μ) (m : μ) (isSending built : Bool) : SharedLock μ × TaskState :=
  if isSending then (s, .taskReady) else s.resumeActiveTask m built

/-- `StartTask_Idle`; `task` says whether the scheduler has one. -/
def startTaskIdle (s : SharedLock μ) (m : μ) (task isSending built : Bool) :
    SharedLock μ × TaskState :=
  if isSending then (s, .idle)
  else if task then
    (s.setMaster m { s.masters m with pActiveTask := true }).resumeActiveTask m built
  else (s, .idle)

/-- A master looks for a task, or goes on with the one it has. -/
def onStartEvent (s : SharedLock μ) (m : μ) (task isSending built : Bool) :
    SharedLock μ × TaskState :=
  match (s.masters m).tstate with
  | .idle => s.startTaskIdle m task isSending built
  | .taskReady => s.startTaskReady m isSending built
  | .waitForResponse => (s, .waitForResponse)

/-- The state tables return the state the master goes to. -/
def goTo (m : μ) (next : SharedLock μ × TaskState) : SharedLock μ := next.1.setState m next.2

/-- A master that is online looks for a task. -/
def checkForTask (s : SharedLock μ) (m : μ) (task isSending built : Bool) : SharedLock μ :=
  if (s.masters m).isOnline then goTo m (s.onStartEvent m task isSending built) else s

/-- A response with the right sequence number. -/
def onResponse (s : SharedLock μ) (m : μ) (result : TaskResult) : SharedLock μ :=
  if (s.masters m).isOnline ∧ (s.masters m).tstate = .waitForResponse then
    match result with
    | .okContinue => s
    | .okRepeat isSending built => goTo m (s.startTaskReady m isSending built)
    | .done => goTo m (s.completeActiveTask m, .idle)
  else s

/-- A master that waits for a response has waited for too long. -/
def onResponseTimeout (s : SharedLock μ) (m : μ) : SharedLock μ :=
  if (s.masters m).isOnline ∧ (s.masters m).tstate = .waitForResponse then
    goTo m (s.completeActiveTask m, .idle)
  else s

/-- A master goes online, and the lock with it. -/
def onLowerLayerUp (s : SharedLock μ) (m : μ) : SharedLock μ :=
  if (s.masters m).isOnline then s
  else
    ({ s with lock := s.lock.onLayerUp }.setMaster m
      { s.masters m with isOnline := true }).note (.up m)

/-- A master goes offline, and the lock with it. -/
def onLowerLayerDown (s : SharedLock μ) (m : μ) : SharedLock μ :=
  if (s.masters m).isOnline then
    ({ s with lock := s.lock.onLayerDown }.setMaster m
      { isOnline := false, tstate := .idle, pActiveTask := false }).note (.down m)
  else s

/-- The masters that go down in one event are one that is disabled or removed, or all of a channel
that closes. -/
inductive Event (μ : Type) where
  | up (m : μ)
  | down (ms : List μ)
  | checkForTask (m : μ) (task isSending built : Bool)
  | response (m : μ) (result : TaskResult)
  | responseTimeout (m : μ)

/-- A master does something. -/
def step (s : SharedLock μ) : Event μ → SharedLock μ
  | .up m => s.onLowerLayerUp m
  | .down ms => ms.foldl onLowerLayerDown s
  | .checkForTask m task isSending built => s.checkForTask m task isSending built
  | .response m result => s.onResponse m result
  | .responseTimeout m => s.onResponseTimeout m

/-! ## What a lock should do -/

/-- Who is online, who holds the lock, and who waits for it, first come first. -/
structure LockBooks (μ : Type) where
  online : μ → Bool
  holder : Option μ
  waiting : List μ

/-- All masters are offline. -/
def LockBooks.initial : LockBooks μ := { online := fun _ => false, holder := none, waiting := [] }

/-- The lock is granted when it is free and nobody waits, or to its holder, and refused when another
master has it; it passes to the first that waits. -/
def LockBooks.Allows (b : LockBooks μ) : LockCall μ → Prop
  | .acquire m true => b.holder = some m ∨ b.holder = none ∧ b.waiting = []
  | .acquire m false => b.holder.isSome = true ∧ b.holder ≠ some m
  | .pending m => b.holder = none ∧ b.waiting.head? = some m
  | _ => True

instance (b : LockBooks μ) (call : LockCall μ) : Decidable (b.Allows call) := by
  unfold LockBooks.Allows
  split <;> infer_instance

/-- A master that goes down leaves the lock and the queue, and nobody else does. -/
def LockBooks.next (b : LockBooks μ) : LockCall μ → LockBooks μ
  | .up m => { b with online := Function.update b.online m true }
  | .down m =>
    { online := Function.update b.online m false
      holder := if b.holder = some m then none else b.holder
      waiting := b.waiting.erase m }
  | .acquire m true => { b with holder := some m }
  | .acquire m false => if m ∈ b.waiting then b else { b with waiting := b.waiting ++ [m] }
  | .release m => { b with holder := if b.holder = some m then none else b.holder }
  | .pending m => { b with holder := some m, waiting := b.waiting.tail }

/-- The observer of the lock, from the books and what they allow. -/
def lockObserver : Observer (LockBooks μ) (LockCall μ) where
  allows := LockBooks.Allows
  next := LockBooks.next

instance (b : LockBooks μ) (call : LockCall μ) : Decidable (lockObserver.allows b call) :=
  inferInstanceAs (Decidable (b.Allows call))

/-- The books of the observer after the calls. -/
def books (s : SharedLock μ) : LockBooks μ := lockObserver.after .initial s.log

/-- The lock serves its masters: every call was answered as it should be, the lock holds and queues
whom it should, no master that is online finds the lock offline, only the holder runs a task, every
master that was refused is queued until it is granted, and the lock is not idle while a master
waits. -/
structure Served (s : SharedLock μ) : Prop where
  accepted : lockObserver.Accepts .initial s.log
  held : s.lock.pActive = s.books.holder
  queued : s.lock.callbackQueue = s.books.waiting
  available : ∀ m, (s.masters m).isOnline = true → s.lock.isOnline = true
  running : ∀ m, (s.masters m).tstate = .waitForResponse → s.books.holder = some m
  refused : ∀ m, (s.masters m).tstate = .taskReady →
    m ∈ s.books.waiting ∨ s.books.holder = some m
  handed : s.books.holder = none → s.books.waiting = []

/-- Masters go down together: with one that is online go all that are. -/
def GoDownTogether (s : SharedLock μ) : Event μ → Prop
  | .down ms => ∀ m ∈ ms, (s.masters m).isOnline = true →
      ∀ n, (s.masters n).isOnline = true → n ∈ ms
  | _ => True

/-! ## The invariants -/

theorem books_note (s : SharedLock μ) (call : LockCall μ) :
    (s.note call).books = s.books.next call := lockObserver.after_concat _ s.log call

/-- What holds also while masters go down one after the other. -/
structure Consistent (s : SharedLock μ) : Prop where
  accepted : lockObserver.Accepts .initial s.log
  online : ∀ m, s.books.online m = (s.masters m).isOnline
  idle : ∀ m, (s.masters m).isOnline = false → (s.masters m).tstate = .idle
  waiting : ∀ m ∈ s.books.waiting, (s.masters m).isOnline = true
  holder : ∀ m, s.books.holder = some m → (s.masters m).isOnline = true
  distinct : s.books.waiting.Nodup
  cleared : s.lock.isOnline = false →
    s.lock.pActive = none ∧ s.lock.callbackQueue = [] ∧ ∀ m, s.lock.callbackSet m = false

/-- The invariant between two events. -/
structure Sound (s : SharedLock μ) : Prop extends Consistent s, Served s where
  set : ∀ m, s.lock.callbackSet m = true ↔ m ∈ s.lock.callbackQueue
  task : ∀ m, (s.masters m).tstate ≠ .idle → (s.masters m).pActiveTask = true

@[simp] theorem setMaster_same (s : SharedLock μ) (m : μ) (x : MasterTask) :
    (s.setMaster m x).masters m = x := Function.update_self ..

theorem setMaster_of_ne (s : SharedLock μ) {m n : μ} (x : MasterTask) (h : n ≠ m) :
    (s.setMaster m x).masters n = s.masters n := Function.update_of_ne h ..

/-! ## The calls -/

/-- A master that stays online goes to a state that its place at the lock allows. -/
theorem Sound.setMaster {s : SharedLock μ} (h : s.Sound) {m : μ} {x : MasterTask}
    (honline : x.isOnline = (s.masters m).isOnline)
    (hidle : x.isOnline = false → x.tstate = .idle)
    (hrunning : x.tstate = .waitForResponse → s.books.holder = some m)
    (hrefused : x.tstate = .taskReady → m ∈ s.books.waiting ∨ s.books.holder = some m)
    (htask : x.tstate ≠ .idle → x.pActiveTask = true) : (s.setMaster m x).Sound := by
  have hsame : ∀ n, ((s.setMaster m x).masters n).isOnline = (s.masters n).isOnline := fun n => by
    by_cases hn : n = m
    · rw [hn, setMaster_same, honline]
    · rw [setMaster_of_ne s x hn]
  have hcases : ∀ {P : MasterTask → μ → Prop}, P x m → (∀ n, n ≠ m → P (s.masters n) n) →
      ∀ n, P ((s.setMaster m x).masters n) n := fun hm hothers n => by
    by_cases hn : n = m
    · subst hn
      rw [setMaster_same]
      exact hm
    · rw [setMaster_of_ne s x hn]
      exact hothers n hn
  exact {
    accepted := h.accepted
    online := fun n => (h.online n).trans (hsame n).symm
    idle := hcases (P := fun y _ => y.isOnline = false → y.tstate = .idle) hidle
      fun n _ => h.idle n
    waiting := fun n hn => (hsame n).trans (h.waiting n hn)
    holder := fun n hn => (hsame n).trans (h.holder n hn)
    distinct := h.distinct
    cleared := h.cleared
    held := h.held
    queued := h.queued
    available := fun n hn => h.available n ((hsame n).symm.trans hn)
    running := hcases (P := fun y n => y.tstate = .waitForResponse → s.books.holder = some n)
      hrunning fun n _ => h.running n
    refused := hcases (P := fun y n => y.tstate = .taskReady →
      n ∈ s.books.waiting ∨ s.books.holder = some n) hrefused fun n _ => h.refused n
    handed := h.handed
    set := h.set
    task := hcases (P := fun y _ => y.tstate ≠ .idle → y.pActiveTask = true) htask
      fun n _ => h.task n }

/-- Calls of an online lock are allowed, and leave lock and books in agreement. -/
theorem Sound.calls {s : SharedLock μ} (h : s.Sound) {lock : MultidropTaskLock μ}
    {calls : List (LockCall μ)} {b : LockBooks μ} (hbooks : lockObserver.after s.books calls = b)
    (hallows : lockObserver.Accepts s.books calls) (honline : b.online = s.books.online)
    (hlock : lock.isOnline = true) (hheld : lock.pActive = b.holder)
    (hqueued : lock.callbackQueue = b.waiting)
    (hset : ∀ n, lock.callbackSet n = true ↔ n ∈ b.waiting)
    (hwaiting : ∀ n ∈ b.waiting, (s.masters n).isOnline = true)
    (hholder : ∀ n, b.holder = some n → (s.masters n).isOnline = true)
    (hdistinct : b.waiting.Nodup)
    (hrunning : ∀ n, (s.masters n).tstate = .waitForResponse → b.holder = some n)
    (hrefused : ∀ n, (s.masters n).tstate = .taskReady → n ∈ b.waiting ∨ b.holder = some n)
    (hhanded : b.holder = none → b.waiting = []) :
    ({ s with lock := lock, log := s.log ++ calls } : SharedLock μ).Sound := by
  have hbooks' : ({ s with lock := lock, log := s.log ++ calls } : SharedLock μ).books = b :=
    (lockObserver.after_append _ s.log calls).trans hbooks
  exact {
    accepted := (lockObserver.accepts_append _ _ _).mpr ⟨h.accepted, hallows⟩
    online := fun n => by
      rw [hbooks', honline]
      exact h.online n
    idle := h.idle
    waiting := by
      rw [hbooks']
      exact hwaiting
    holder := by
      rw [hbooks']
      exact hholder
    distinct := by
      rw [hbooks']
      exact hdistinct
    cleared := fun hoff => absurd (hlock.symm.trans hoff) (Ne.symm Bool.false_ne_true)
    held := by
      rw [hbooks']
      exact hheld
    queued := by
      rw [hbooks']
      exact hqueued
    available := fun _ _ => hlock
    running := by
      rw [hbooks']
      exact hrunning
    refused := by
      rw [hbooks']
      exact hrefused
    handed := by
      rw [hbooks']
      exact hhanded
    set := fun n => (hset n).trans (by rw [← hqueued])
    task := h.task }

/-- The call of `Acquire`. -/
def acquired (s : SharedLock μ) (m : μ) : SharedLock μ :=
  ({ s with lock := (s.lock.acquire m).1 }).note (.acquire m (s.lock.acquire m).2)

theorem books_acquired (s : SharedLock μ) (m : μ) :
    (s.acquired m).books = s.books.next (.acquire m (s.lock.acquire m).2) := books_note _ _

theorem Sound.acquired {s : SharedLock μ} (h : s.Sound) {m : μ}
    (honline : (s.masters m).isOnline = true) :
    (s.acquired m).Sound ∧
      (if (s.lock.acquire m).2 = true then (s.acquired m).books.holder = some m
        else m ∈ (s.acquired m).books.waiting) := by
  have hlock := h.available m honline
  have hset : ∀ n, s.lock.callbackSet n = true ↔ n ∈ s.books.waiting := fun n => by
    rw [h.set, h.queued]
  rw [books_acquired]
  unfold SharedLock.acquired
  cases hactive : s.lock.pActive with
  | none =>
    have hacquire : s.lock.acquire m = ({ s.lock with pActive := some m }, true) := by
      rw [MultidropTaskLock.acquire, if_pos hlock, hactive]
    have hfree : s.books.holder = none := h.held.symm.trans hactive
    have hnobody := h.handed hfree
    rw [hacquire]
    refine ⟨h.calls rfl ⟨.inr ⟨hfree, hnobody⟩, trivial⟩ rfl hlock rfl h.queued hset h.waiting ?_
      h.distinct
      (fun n hn => ?_) (fun n hn => ?_) (fun hnone => by cases hnone), rfl⟩
    · rintro n hn
      obtain rfl := Option.some.inj hn
      exact honline
    · have := h.running n hn
      rw [hfree] at this
      cases this
    · have := h.refused n hn
      rw [hfree, hnobody] at this
      rcases this with hmem | hnone
      · cases hmem
      · cases hnone
  | some active =>
    have hheld : s.books.holder = some active := h.held.symm.trans hactive
    by_cases hm : m = active
    · subst hm
      have hacquire : s.lock.acquire m = (s.lock, true) := by
        rw [MultidropTaskLock.acquire, if_pos hlock, hactive]
        exact if_pos rfl
      rw [hacquire]
      have hsame : s.books.next (.acquire m true) = s.books := by
        rw [LockBooks.next, ← hheld]
      refine ⟨h.calls hsame ⟨.inl hheld, trivial⟩ rfl hlock h.held h.queued hset h.waiting h.holder
        h.distinct h.running h.refused h.handed, rfl⟩
    · have hacquire : s.lock.acquire m = (s.lock.addIfNotContained m, false) := by
        rw [MultidropTaskLock.acquire, if_pos hlock, hactive]
        exact if_neg hm
      have hallows : s.books.Allows (.acquire m false) := by
        refine ⟨by rw [hheld]; rfl, ?_⟩
        rw [hheld]
        exact fun hsome => hm (Option.some.inj hsome).symm
      rw [hacquire, MultidropTaskLock.addIfNotContained]
      by_cases hmem : m ∈ s.books.waiting
      · have hnext : s.books.next (.acquire m false) = s.books := if_pos hmem
        rw [if_pos ((hset m).mpr hmem), hnext]
        exact ⟨h.calls hnext ⟨hallows, trivial⟩ rfl hlock h.held h.queued hset h.waiting h.holder
          h.distinct
          h.running h.refused h.handed, hmem⟩
      · have hnext : s.books.next (.acquire m false) =
            { s.books with waiting := s.books.waiting ++ [m] } := if_neg hmem
        rw [if_neg (mt (hset m).mp hmem), hnext]
        refine ⟨h.calls hnext ⟨hallows, trivial⟩ rfl hlock h.held ?_ (fun n => ?_) (fun n hn => ?_)
          h.holder ?_
          h.running (fun n hn => ?_) (fun hnone => ?_), List.mem_append_right _ (by simp)⟩
        · show s.lock.callbackQueue ++ [m] = s.books.waiting ++ [m]
          rw [h.queued]
        · show Function.update s.lock.callbackSet m true n = true ↔ n ∈ s.books.waiting ++ [m]
          by_cases hn : n = m
          · rw [hn, Function.update_self]
            simp
          · rw [Function.update_of_ne hn, hset]
            simp [hn]
        · rcases List.mem_append.mp hn with hn | hn
          · exact h.waiting n hn
          · rw [List.mem_singleton.mp hn]
            exact honline
        · refine List.nodup_append.mpr ⟨h.distinct, by simp, ?_⟩
          rintro a ha b hb rfl
          exact hmem (List.mem_singleton.mp hb ▸ ha)
        · exact (h.refused n hn).imp_left fun hmem => List.mem_append_left _ hmem
        · have hnone' : s.books.holder = none := hnone
          rw [hheld] at hnone'
          cases hnone'

/-- The holder releases the lock, and the first that waits gets it. -/
theorem Sound.release {s : SharedLock μ} (h : s.Sound) {m : μ} (hholder : s.books.holder = some m)
    (hidle : (s.masters m).tstate = .idle) : (s.release m).Sound := by
  have hlock := h.available m (h.holder m hholder)
  have hactive : s.lock.pActive = some m := h.held.trans hholder
  have hset : ∀ n, s.lock.callbackSet n = true ↔ n ∈ s.books.waiting := fun n => by
    rw [h.set, h.queued]
  have hreleased : s.books.next (.release m) = { s.books with holder := none } := by
    rw [LockBooks.next, if_pos hholder]
  have hother : ∀ n, (s.masters n).tstate ≠ .idle → n ≠ m := by
    rintro n hn rfl
    exact hn hidle
  have hnotRunning : ∀ n, (s.masters n).tstate ≠ .waitForResponse := fun n hn => by
    have hsome := h.running n hn
    rw [hholder] at hsome
    exact hother n (by rw [hn]; decide) (Option.some.inj hsome).symm
  have hwaits : ∀ n, (s.masters n).tstate = .taskReady → n ∈ s.books.waiting := fun n hn => by
    refine (h.refused n hn).resolve_right fun hsome => ?_
    rw [hholder] at hsome
    exact hother n (by rw [hn]; decide) (Option.some.inj hsome).symm
  have hcond : (s.lock.isOnline && s.lock.pActive == some m) = true := by
    rw [hlock, hactive]
    simp
  unfold SharedLock.release MultidropTaskLock.release
  rw [if_pos hcond]
  cases hqueue : s.lock.callbackQueue with
  | nil =>
    have hnobody : s.books.waiting = [] := h.queued.symm.trans hqueue
    exact h.calls hreleased ⟨trivial, trivial⟩ rfl hlock rfl hnobody.symm hset h.waiting
      (fun n hn => by cases hn) h.distinct (fun n hn => absurd hn (hnotRunning n))
      (fun n hn => .inl (hwaits n hn)) fun _ => hnobody
  | cons front rest =>
    have hwaiting : s.books.waiting = front :: rest := h.queued.symm.trans hqueue
    have hdistinct := h.distinct
    rw [hwaiting, List.nodup_cons] at hdistinct
    have hafter : lockObserver.after s.books [LockCall.release m, LockCall.pending front] =
        { s.books with holder := some front, waiting := rest } := by
      show (s.books.next (.release m)).next (.pending front) = _
      rw [hreleased, LockBooks.next, hwaiting]
      rfl
    have hallows : lockObserver.Accepts s.books [LockCall.release m, LockCall.pending front] := by
      refine ⟨trivial, ?_, trivial⟩
      show (s.books.next (.release m)).Allows (.pending front)
      rw [hreleased]
      refine ⟨rfl, ?_⟩
      show s.books.waiting.head? = _
      rw [hwaiting]
      rfl
    have hlog : (s.log ++ [LockCall.release m]) ++ [LockCall.pending front] =
        s.log ++ [LockCall.release m, LockCall.pending front] := by
      rw [List.append_assoc]
      rfl
    simp only [SharedLock.note, hlog]
    refine h.calls hafter hallows rfl hlock rfl rfl (fun n => ?_) (fun n hn => ?_) (fun n hn => ?_)
      hdistinct.2 (fun n hn => absurd hn (hnotRunning n)) (fun n hn => ?_)
      (fun hnone => by cases hnone)
    · show Function.update s.lock.callbackSet front false n = true ↔ n ∈ rest
      by_cases hn : n = front
      · rw [hn, Function.update_self]
        simp [hdistinct.1]
      · rw [Function.update_of_ne hn, hset, hwaiting, List.mem_cons]
        exact or_iff_right hn
    · exact h.waiting n (by rw [hwaiting]; exact List.mem_cons_of_mem _ hn)
    · obtain rfl := Option.some.inj hn
      exact h.waiting front (by rw [hwaiting]; exact List.mem_cons_self)
    · have hmem := hwaits n hn
      rw [hwaiting] at hmem
      rcases List.mem_cons.mp hmem with rfl | hmem
      · exact .inr rfl
      · exact .inl hmem

/-! ## The events -/

theorem release_setMaster (s : SharedLock μ) (m : μ) (x : MasterTask) :
    (s.release m).setMaster m x = (s.setMaster m x).release m := by
  unfold SharedLock.release
  simp only [show (s.setMaster m x).lock = s.lock from rfl]
  split <;> rfl

theorem masters_release (s : SharedLock μ) (m : μ) : (s.release m).masters = s.masters := by
  unfold SharedLock.release
  simp only
  split <;> rfl

theorem setMaster_setMaster (s : SharedLock μ) (m : μ) (x y : MasterTask) :
    (s.setMaster m x).setMaster m y = s.setMaster m y := by
  simp only [setMaster, Function.update_idem]

/-- A master whose task has ended releases the lock and goes back to idle. -/
theorem Sound.complete {s : SharedLock μ} (h : s.Sound) {m : μ}
    (hholder : s.books.holder = some m) (htask : (s.masters m).pActiveTask = true) :
    (goTo m (s.completeActiveTask m, .idle)).Sound := by
  have hidle : (s.setMaster m
      { isOnline := (s.masters m).isOnline, tstate := .idle, pActiveTask := false }).Sound :=
    h.setMaster rfl (fun _ => rfl) (fun hfalse => by cases hfalse) (fun hfalse => by cases hfalse)
      fun hfalse => absurd rfl hfalse
  have hreleased := hidle.release (m := m) hholder (by rw [setMaster_same])
  unfold goTo completeActiveTask
  simp only [if_pos htask]
  rw [setState, masters_release, setMaster_same, release_setMaster, setMaster_setMaster]
  exact hreleased

theorem resumeActiveTask_eq (s : SharedLock μ) (m : μ) (built : Bool) :
    s.resumeActiveTask m built =
      if !(s.lock.acquire m).2 then (s.acquired m, .taskReady)
      else if !built then ((s.acquired m).completeActiveTask m, .idle)
      else (s.acquired m, .waitForResponse) := rfl

/-- A master with a task asks for the lock, and waits or runs. -/
theorem Sound.resumeActiveTask {s : SharedLock μ} (h : s.Sound) {m : μ}
    (honline : (s.masters m).isOnline = true) (htask : (s.masters m).pActiveTask = true)
    (built : Bool) : (goTo m (s.resumeActiveTask m built)).Sound := by
  obtain ⟨hacquired, hplace⟩ := h.acquired honline
  have htask' : ((s.acquired m).masters m).pActiveTask = true := htask
  have honline' : ((s.acquired m).masters m).isOnline = true := honline
  rw [resumeActiveTask_eq]
  cases hgranted : (s.lock.acquire m).2 with
  | false =>
    rw [hgranted, if_neg Bool.false_ne_true] at hplace
    exact hacquired.setMaster rfl (fun hoff => absurd (hoff.symm.trans honline') Bool.false_ne_true)
      (fun hfalse => by cases hfalse) (fun _ => .inl hplace) fun _ => htask'
  | true =>
    rw [hgranted, if_pos rfl] at hplace
    cases built with
    | false => exact hacquired.complete hplace htask'
    | true =>
      exact hacquired.setMaster rfl
        (fun hoff => absurd (hoff.symm.trans honline') Bool.false_ne_true)
        (fun _ => hplace) (fun hfalse => by cases hfalse) fun _ => htask'

/-- Staying in a state changes nothing. -/
theorem goTo_same (s : SharedLock μ) (m : μ) : goTo m (s, (s.masters m).tstate) = s := by
  simp only [goTo, setState, setMaster, Function.update_eq_self]

theorem Sound.startTaskReady {s : SharedLock μ} (h : s.Sound) {m : μ}
    (honline : (s.masters m).isOnline = true) (hactive : (s.masters m).tstate ≠ .idle)
    (isSending built : Bool) : (goTo m (s.startTaskReady m isSending built)).Sound := by
  have htask := h.task m hactive
  unfold SharedLock.startTaskReady
  split
  · refine h.setMaster rfl (fun hoff => absurd (hoff.symm.trans honline) Bool.false_ne_true)
      (fun hfalse => by cases hfalse) (fun _ => ?_) fun _ => htask
    cases hstate : (s.masters m).tstate with
    | idle => exact absurd hstate hactive
    | taskReady => exact h.refused m hstate
    | waitForResponse => exact .inr (h.running m hstate)
  · exact h.resumeActiveTask honline htask built

theorem Sound.checkForTask {s : SharedLock μ} (h : s.Sound) (m : μ) (task isSending built : Bool) :
    (s.checkForTask m task isSending built).Sound := by
  unfold SharedLock.checkForTask
  split
  · rename_i honline
    unfold onStartEvent
    cases hstate : (s.masters m).tstate with
    | idle =>
      have hstay : (goTo m (s, .idle)).Sound := by
        rw [← hstate, goTo_same]
        exact h
      unfold startTaskIdle
      simp only
      split
      · exact hstay
      · split
        · have hbegun : (s.setMaster m { s.masters m with pActiveTask := true }).Sound :=
            h.setMaster rfl (h.idle m) (h.running m) (h.refused m) fun _ => rfl
          exact hbegun.resumeActiveTask (by rw [setMaster_same]; exact honline)
            (by rw [setMaster_same]) built
        · exact hstay
    | taskReady => exact h.startTaskReady honline (by rw [hstate]; decide) isSending built
    | waitForResponse =>
      simp only
      rw [← hstate, goTo_same]
      exact h
  · exact h

theorem Sound.onResponse {s : SharedLock μ} (h : s.Sound) (m : μ) (result : TaskResult) :
    (s.onResponse m result).Sound := by
  unfold SharedLock.onResponse
  split
  · rename_i hwait
    have hactive : (s.masters m).tstate ≠ .idle := by
      rw [hwait.2]
      decide
    cases result with
    | okContinue => exact h
    | okRepeat isSending built => exact h.startTaskReady hwait.1 hactive isSending built
    | done => exact h.complete (h.running m hwait.2) (h.task m hactive)
  · exact h

theorem Sound.onResponseTimeout {s : SharedLock μ} (h : s.Sound) (m : μ) :
    (s.onResponseTimeout m).Sound := by
  unfold SharedLock.onResponseTimeout
  split
  · rename_i hwait
    exact h.complete (h.running m hwait.2) (h.task m (by rw [hwait.2]; decide))
  · exact h

theorem Sound.onLowerLayerUp {s : SharedLock μ} (h : s.Sound) (m : μ) :
    (s.onLowerLayerUp m).Sound := by
  unfold SharedLock.onLowerLayerUp
  split
  · exact h
  · rename_i hoff
    generalize ht : ({ s with lock := s.lock.onLayerUp }.setMaster m
      { s.masters m with isOnline := true }).note (.up m) = t
    have hbooks : t.books = s.books.next (.up m) := by
      subst ht
      exact books_note _ _
    have hheld : t.books.holder = s.books.holder := by
      rw [hbooks]
      rfl
    have hwaits : t.books.waiting = s.books.waiting := by
      rw [hbooks]
      rfl
    have hlock : t.lock = s.lock.onLayerUp := by
      subst ht
      rfl
    have hmasters : ∀ n, (t.masters n).tstate = (s.masters n).tstate ∧
        (t.masters n).pActiveTask = (s.masters n).pActiveTask ∧
        ((t.masters n).isOnline = true ↔ n = m ∨ (s.masters n).isOnline = true) := fun n => by
      subst ht
      show (Function.update s.masters m _ n).tstate = _ ∧ _ ∧ _
      by_cases hn : n = m
      · simp [hn, SharedLock.note, SharedLock.setMaster]
      · simp [hn, SharedLock.note, SharedLock.setMaster]
    have hon : ∀ n, (s.masters n).isOnline = true → (t.masters n).isOnline = true :=
      fun n hn => (hmasters n).2.2.mpr (.inr hn)
    exact {
      accepted := by
        subst ht
        exact lockObserver.accepts_concat h.accepted trivial
      online := fun n => by
        rw [hbooks, Bool.eq_iff_iff, (hmasters n).2.2, ← h.online]
        show Function.update s.books.online m true n = true ↔ _
        by_cases hn : n = m
        · simp [hn]
        · simp [hn]
      idle := fun n hn => by
        rw [(hmasters n).1]
        refine h.idle n (Bool.eq_false_iff.mpr fun hn' => ?_)
        exact absurd (hn.symm.trans (hon n hn')) Bool.false_ne_true
      waiting := fun n hn => hon n (h.waiting n (hwaits ▸ hn))
      holder := fun n hn => hon n (h.holder n (hheld ▸ hn))
      distinct := hwaits ▸ h.distinct
      cleared := fun hfalse => by
        rw [hlock] at hfalse
        exact absurd hfalse.symm Bool.false_ne_true
      held := by
        rw [hlock, hheld]
        exact h.held
      queued := by
        rw [hlock, hwaits]
        exact h.queued
      available := fun _ _ => by
        rw [hlock]
        rfl
      running := fun n => by
        rw [(hmasters n).1, hheld]
        exact h.running n
      refused := fun n => by
        rw [(hmasters n).1, hheld, hwaits]
        exact h.refused n
      handed := by
        rw [hheld, hwaits]
        exact h.handed
      set := by
        rw [hlock]
        exact h.set
      task := fun n => by
        rw [(hmasters n).1, (hmasters n).2.1]
        exact h.task n }

/-! ### Going down -/

/-- The master that goes down, in its own state. -/
def wentDown (s : SharedLock μ) (m : μ) : SharedLock μ :=
  ({ s with lock := s.lock.onLayerDown }.setMaster m
    { isOnline := false, tstate := .idle, pActiveTask := false }).note (.down m)

theorem onLowerLayerDown_of_online {s : SharedLock μ} {m : μ}
    (h : (s.masters m).isOnline = true) : s.onLowerLayerDown m = s.wentDown m := if_pos h

theorem onLowerLayerDown_of_offline {s : SharedLock μ} {m : μ}
    (h : (s.masters m).isOnline = false) : s.onLowerLayerDown m = s :=
  if_neg (by rw [h]; exact Bool.false_ne_true)

theorem masters_wentDown (s : SharedLock μ) (m n : μ) :
    ((s.wentDown m).masters n).isOnline = true ↔ n ≠ m ∧ (s.masters n).isOnline = true := by
  show (Function.update s.masters m _ n).isOnline = true ↔ _
  by_cases hn : n = m
  · simp [hn]
  · simp [hn]

omit [DecidableEq μ] in
theorem onLayerDown_cleared {l : MultidropTaskLock μ}
    (h : l.isOnline = false →
      l.pActive = none ∧ l.callbackQueue = [] ∧ ∀ m, l.callbackSet m = false) :
    l.onLayerDown.isOnline = false ∧ l.onLayerDown.pActive = none ∧
      l.onLayerDown.callbackQueue = [] ∧ ∀ m, l.onLayerDown.callbackSet m = false := by
  unfold MultidropTaskLock.onLayerDown
  split
  · exact ⟨rfl, rfl, rfl, fun _ => rfl⟩
  · rename_i hoff
    have hoff' := Bool.eq_false_iff.mpr hoff
    exact ⟨hoff', h hoff'⟩

theorem Consistent.onLowerLayerDown {s : SharedLock μ} (h : s.Consistent) (m : μ) :
    (s.onLowerLayerDown m).Consistent := by
  cases hm : (s.masters m).isOnline with
  | false =>
    rw [onLowerLayerDown_of_offline hm]
    exact h
  | true =>
    rw [onLowerLayerDown_of_online hm]
    have hbooks : (s.wentDown m).books = s.books.next (.down m) := books_note _ _
    exact {
      accepted := lockObserver.accepts_concat h.accepted trivial
      online := fun n => by
        rw [hbooks, Bool.eq_iff_iff, masters_wentDown, ← h.online]
        show Function.update s.books.online m false n = true ↔ _
        by_cases hn : n = m
        · simp [hn]
        · simp [hn]
      idle := fun n hn => by
        show (Function.update s.masters m _ n).tstate = _
        by_cases hnm : n = m
        · simp [hnm]
        · rw [Function.update_of_ne hnm]
          refine h.idle n (Bool.eq_false_iff.mpr fun hon => ?_)
          exact absurd (hn.symm.trans ((masters_wentDown s m n).mpr ⟨hnm, hon⟩)) Bool.false_ne_true
      waiting := fun n hn => by
        rw [hbooks] at hn
        obtain ⟨hnm, hn'⟩ := h.distinct.mem_erase_iff.mp hn
        exact (masters_wentDown s m n).mpr ⟨hnm, h.waiting n hn'⟩
      holder := fun n hn => by
        rw [hbooks, LockBooks.next] at hn
        simp only at hn
        split at hn
        · cases hn
        · rename_i hm'
          refine (masters_wentDown s m n).mpr ⟨?_, h.holder n hn⟩
          rintro rfl
          exact hm' hn
      distinct := by
        rw [hbooks]
        exact h.distinct.erase m
      cleared := fun _ => (onLayerDown_cleared h.cleared).2 }

theorem isOnline_foldl_down (s : SharedLock μ) (ms : List μ) (n : μ) :
    ((ms.foldl onLowerLayerDown s).masters n).isOnline = true ↔
      (s.masters n).isOnline = true ∧ n ∉ ms := by
  induction ms generalizing s with
  | nil => simp
  | cons m ms ih =>
    rw [List.foldl_cons, ih]
    cases hm : (s.masters m).isOnline with
    | false =>
      rw [onLowerLayerDown_of_offline hm, List.mem_cons]
      refine and_congr_right fun hn => ?_
      have hne : n ≠ m := by
        rintro rfl
        exact absurd (hm.symm.trans hn) Bool.false_ne_true
      simp [hne]
    | true =>
      rw [onLowerLayerDown_of_online hm, masters_wentDown, List.mem_cons]
      tauto

theorem Consistent.foldl_down {s : SharedLock μ} (h : s.Consistent) (ms : List μ) :
    (ms.foldl SharedLock.onLowerLayerDown s).Consistent := by
  induction ms generalizing s with
  | nil => exact h
  | cons m ms ih => exact ih (h.onLowerLayerDown m)

/-- When nobody of those that go down is online nothing happens. -/
theorem foldl_down_of_offline {s : SharedLock μ} {ms : List μ}
    (h : ∀ m ∈ ms, (s.masters m).isOnline = false) : ms.foldl onLowerLayerDown s = s := by
  induction ms with
  | nil => rfl
  | cons m ms ih =>
    rw [List.foldl_cons, onLowerLayerDown_of_offline (h m List.mem_cons_self)]
    exact ih fun m' hm' => h m' (List.mem_cons_of_mem _ hm')

theorem lock_foldl_down_of_offline {s : SharedLock μ} (h : s.lock.isOnline = false)
    (ms : List μ) : (ms.foldl onLowerLayerDown s).lock.isOnline = false := by
  induction ms generalizing s with
  | nil => exact h
  | cons m ms ih =>
    refine ih ?_
    unfold onLowerLayerDown
    split
    · show s.lock.onLayerDown.isOnline = false
      rw [MultidropTaskLock.onLayerDown, if_neg (by rw [h]; exact Bool.false_ne_true), h]
    · exact h

/-- The first master that goes down takes the lock offline for all. -/
theorem lock_foldl_down {s : SharedLock μ} {ms : List μ} {m : μ} (hm : m ∈ ms)
    (honline : (s.masters m).isOnline = true) :
    (ms.foldl onLowerLayerDown s).lock.isOnline = false := by
  induction ms generalizing s with
  | nil => cases hm
  | cons n ms ih =>
    rw [List.foldl_cons]
    by_cases hn : (s.masters n).isOnline = true
    · refine lock_foldl_down_of_offline ?_ ms
      rw [onLowerLayerDown_of_online hn]
      show s.lock.onLayerDown.isOnline = false
      unfold MultidropTaskLock.onLayerDown
      split
      · rfl
      · rename_i hoff
        exact Bool.eq_false_iff.mpr hoff
    · rw [onLowerLayerDown_of_offline (Bool.eq_false_iff.mpr hn)]
      refine ih ?_ honline
      rcases List.mem_cons.mp hm with rfl | hm
      · exact absurd honline hn
      · exact hm

theorem Sound.foldl_down {s : SharedLock μ} (h : s.Sound) {ms : List μ}
    (htogether : s.GoDownTogether (.down ms)) : (ms.foldl onLowerLayerDown s).Sound := by
  by_cases hsome : ∃ m ∈ ms, (s.masters m).isOnline = true
  · obtain ⟨m, hm, honline⟩ := hsome
    have hconsistent := h.toConsistent.foldl_down ms
    have hoff := lock_foldl_down hm honline
    have hnone : ∀ n, ((ms.foldl onLowerLayerDown s).masters n).isOnline ≠ true := fun n hn => by
      obtain ⟨hon, hnot⟩ := (isOnline_foldl_down s ms n).mp hn
      exact hnot (htogether m hm honline n hon)
    have hidle := fun n => hconsistent.idle n (Bool.eq_false_iff.mpr (hnone n))
    have hholder : (ms.foldl onLowerLayerDown s).books.holder = none :=
      Option.eq_none_iff_forall_ne_some.mpr fun n hn => hnone n (hconsistent.holder n hn)
    have hwaiting : (ms.foldl onLowerLayerDown s).books.waiting = [] :=
      List.eq_nil_iff_forall_not_mem.mpr fun n hn => hnone n (hconsistent.waiting n hn)
    obtain ⟨hactive, hqueue, hset⟩ := hconsistent.cleared hoff
    exact {
      toConsistent := hconsistent
      held := hactive.trans hholder.symm
      queued := hqueue.trans hwaiting.symm
      available := fun n hn => absurd hn (hnone n)
      running := fun n hn => by
        rw [hidle n] at hn
        cases hn
      refused := fun n hn => by
        rw [hidle n] at hn
        cases hn
      handed := fun _ => hwaiting
      set := fun n => by
        rw [hqueue, hset n]
        simp
      task := fun n hn => absurd (hidle n) hn }
  · rw [foldl_down_of_offline fun m hm => Bool.eq_false_iff.mpr fun hon => hsome ⟨m, hm, hon⟩]
    exact h

/-! ## Runs -/

theorem Sound.step {s : SharedLock μ} (h : s.Sound) {e : Event μ} (he : s.GoDownTogether e) :
    (s.step e).Sound := by
  cases e with
  | up m => exact h.onLowerLayerUp m
  | down ms => exact h.foldl_down he
  | checkForTask m task isSending built => exact h.checkForTask m task isSending built
  | response m result => exact h.onResponse m result
  | responseTimeout m => exact h.onResponseTimeout m

theorem sound_initial : (initial : SharedLock μ).Sound where
  accepted := trivial
  online := fun _ => rfl
  idle := fun _ _ => rfl
  waiting := fun _ hm => by cases hm
  holder := fun _ hm => by cases hm
  distinct := List.nodup_nil
  cleared := fun _ => ⟨rfl, rfl, fun _ => rfl⟩
  held := rfl
  queued := rfl
  available := fun _ hm => absurd hm Bool.false_ne_true
  running := fun _ hm => by cases hm
  refused := fun _ hm => by cases hm
  handed := fun _ => rfl
  set := fun _ => ⟨fun hfalse => absurd hfalse Bool.false_ne_true, fun hm => by cases hm⟩
  task := fun _ hm => absurd rfl hm

/-- A master that goes down alone takes the lock away from those that stay. -/
theorem goDownTogether_of_served {s : SharedLock μ} {e : Event μ} (h : (s.step e).Served) :
    s.GoDownTogether e := by
  cases e with
  | down ms =>
    intro m hm honline n hn
    by_contra hnot
    have hstays := (isOnline_foldl_down s ms n).mpr ⟨hn, hnot⟩
    have hoff := lock_foldl_down hm honline
    exact absurd (hoff.symm.trans (h.available n hstays)) Bool.false_ne_true
  | _ => trivial

/-- **The lock of a channel** serves its masters in every state of a run exactly when, throughout
the run, masters go down together. -/
theorem multidropTaskLock_served_iff (events : List (Event μ)) :
    Always SharedLock.step Served initial events ↔
      Throughout SharedLock.step GoDownTogether initial events := by
  constructor
  · exact fun h => h.throughout fun _ _ _ h => goDownTogether_of_served h
  · intro h
    exact (always_invariant (I := Sound) (P := GoDownTogether) (fun _ _ hs he => hs.step he)
      sound_initial h).imp fun _ hs => hs.toServed

/-- Of three masters the first runs a task and the second is refused; the third is disabled and
enabled again, and the second looks for its task once more. -/
def disabledMaster : List (Event Nat) :=
  [.up 0, .up 1, .up 2, .checkForTask 0 true false true, .checkForTask 1 true false true,
    .down [2], .up 2, .checkForTask 1 true false true]

/-- Two masters run at once. -/
theorem multidropTaskLock_disabled :
    ¬ Always SharedLock.step Served initial disabledMaster ∧
      ((run SharedLock.step initial disabledMaster).masters 0).tstate = .waitForResponse ∧
      ((run SharedLock.step initial disabledMaster).masters 1).tstate = .waitForResponse := by
  have h0 : ((run SharedLock.step initial disabledMaster).masters 0).tstate = .waitForResponse := by
    decide
  have h1 : ((run SharedLock.step initial disabledMaster).masters 1).tstate = .waitForResponse := by
    decide
  refine ⟨fun h => ?_, h0, h1⟩
  have hsame := (h.last.running 0 h0).symm.trans (h.last.running 1 h1)
  exact absurd hsame (by decide)

end SharedLock
end Master
end Dnp3
