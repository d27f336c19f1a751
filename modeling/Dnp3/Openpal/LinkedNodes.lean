import Dnp3.Library.Runs
import Dnp3.Openpal.LinkedList
import Mathlib.Data.List.Induction
import Mathlib.Data.List.Nodup
import Mathlib.Logic.Function.Basic

/-!
# The nodes of a list

A `LinkedList` keeps its nodes in an array.  The nodes of the values are linked in both directions,
from the head to the tail; the other nodes are linked one after the other from the free pointer.
Every node of the array is in one of the two chains, so that a node is free exactly when the list is
shorter than the array, and the operations on nodes are those on the list of values.

`Represents` says which nodes hold the values, in order, and which are free.  `insert_spec` and
`remove_spec` describe the two operations that relink nodes, pointer by pointer; everything else is
built from them.  `Refines` relates the nodes to a `LinkedList`, and `LinkedNodes.refines_run` says
that after any changes the two agree.
-/

namespace Dnp3
namespace Openpal

/-- A node; the pointers are places in the array. -/
structure ListNode (α : Type) where
  value : α
  prev : Option Nat
  next : Option Nat

/-- `LinkedList` with its nodes. -/
structure LinkedNodes (α : Type) where
  size : Nat
  pHead : Option Nat
  pTail : Option Nat
  pFree : Option Nat
  capacity : Nat
  underlying : Nat → ListNode α

namespace LinkedNodes

variable {α : Type}

/-! ## Nodes -/

/-- A node points to another one behind it. -/
def setNext (nodes : Nat → ListNode α) (i : Nat) (next : Option Nat) : Nat → ListNode α :=
  Function.update nodes i { nodes i with next := next }

/-- A node points to another one in front of it. -/
def setPrev (nodes : Nat → ListNode α) (i : Nat) (prev : Option Nat) : Nat → ListNode α :=
  Function.update nodes i { nodes i with prev := prev }

/-- `Link`. -/
def link (nodes : Nat → ListNode α) (first second : Option Nat) : Nat → ListNode α :=
  let nodes :=
    match first with
    | some first => setNext nodes first second
    | none => nodes
  match second with
  | some second => setPrev nodes second first
  | none => nodes

/-- The loop of `Initialize`, up to a node. -/
def linkAll (nodes : Nat → ListNode α) : Nat → Nat → ListNode α
  | 0 => nodes
  | i + 1 => link (linkAll nodes i) (some i) (some (i + 1))

/-- A list without values; the nodes of the array have the default value. -/
def initial (value : α) (capacity : Nat) : LinkedNodes α where
  size := 0
  pHead := none
  pTail := none
  pFree := if capacity = 0 then none else some 0
  capacity := capacity
  underlying := linkAll (fun _ => ⟨value, none, none⟩) (capacity - 1)

/-- No node is free. -/
def isFull (l : LinkedNodes α) : Bool := l.pFree.isNone

/-! ## Operations -/

/-- `Insert` between two nodes; nothing is returned when no node is free. -/
def insert (l : LinkedNodes α) (value : α) (pLeft pRight : Option Nat) :
    Option (LinkedNodes α) :=
  match l.pFree with
  | none => none
  | some pNode =>
    let nodes := Function.update l.underlying pNode { l.underlying pNode with value := value }
    some
      { size := l.size + 1
        pHead := if pLeft.isNone then some pNode else l.pHead
        pTail := if pRight.isNone then some pNode else l.pTail
        pFree := (l.underlying pNode).next
        capacity := l.capacity
        underlying := link (link nodes pLeft (some pNode)) (some pNode) pRight }

/-- A value is added behind the others, in a free node. -/
def add (l : LinkedNodes α) (value : α) : Option (LinkedNodes α) := l.insert value l.pTail none

/-- `Remove` a node. -/
def remove (l : LinkedNodes α) (apNode : Nat) : LinkedNodes α :=
  let prev := (l.underlying apNode).prev
  let next := (l.underlying apNode).next
  let nodes := setNext (link l.underlying prev next) apNode l.pFree
  let nodes :=
    match l.pFree with
    | some pFree => setPrev nodes pFree (some apNode)
    | none => nodes
  { size := l.size - 1
    pHead := if prev.isNone then next else l.pHead
    pTail := if next.isNone then prev else l.pTail
    pFree := some apNode
    capacity := l.capacity
    underlying := setPrev nodes apNode none }

/-- The loop of `FindFirst`; there are no more nodes than the array has. -/
def findFirst (nodes : Nat → ListNode α) (select : α → Bool) : Nat → Option Nat → Option Nat
  | 0, _ => none
  | _, none => none
  | fuel + 1, some i =>
    if select (nodes i).value then some i else findFirst nodes select fuel (nodes i).next

/-- The first value that is selected is removed. -/
def removeFirst (l : LinkedNodes α) (select : α → Bool) : LinkedNodes α :=
  match findFirst l.underlying select l.capacity l.pHead with
  | some pNode => l.remove pNode
  | none => l

/-- The loop of `RemoveAll`; the iterator is a node ahead of the current one. -/
def removeAllFrom (isMatch : α → Bool) : Nat → (pCurrent iter : Option Nat) → LinkedNodes α →
    LinkedNodes α
  | 0, _, _, l => l
  | _, none, _, l => l
  | fuel + 1, some pCurrent, iter, l =>
    let ahead := iter.bind fun i => (l.underlying i).next
    let l := if isMatch (l.underlying pCurrent).value then l.remove pCurrent else l
    removeAllFrom isMatch fuel iter ahead l

/-- Every value that matches is removed, in one walk. -/
def removeAll (l : LinkedNodes α) (isMatch : α → Bool) : LinkedNodes α :=
  removeAllFrom isMatch l.capacity l.pHead (l.pHead.bind fun i => (l.underlying i).next) l

/-! ## What the operations do to nodes -/

variable (nodes : Nat → ListNode α) (i j : Nat) (p : Option Nat)

@[simp] theorem next_setNext :
    (setNext nodes i p j).next = if j = i then p else (nodes j).next := by
  by_cases h : j = i
  · subst h
    simp [setNext]
  · simp [setNext, h]

@[simp] theorem prev_setNext : (setNext nodes i p j).prev = (nodes j).prev := by
  by_cases h : j = i
  · subst h
    simp [setNext]
  · simp [setNext, h]

@[simp] theorem value_setNext : (setNext nodes i p j).value = (nodes j).value := by
  by_cases h : j = i
  · subst h
    simp [setNext]
  · simp [setNext, h]

@[simp] theorem prev_setPrev :
    (setPrev nodes i p j).prev = if j = i then p else (nodes j).prev := by
  by_cases h : j = i
  · subst h
    simp [setPrev]
  · simp [setPrev, h]

@[simp] theorem next_setPrev : (setPrev nodes i p j).next = (nodes j).next := by
  by_cases h : j = i
  · subst h
    simp [setPrev]
  · simp [setPrev, h]

@[simp] theorem value_setPrev : (setPrev nodes i p j).value = (nodes j).value := by
  by_cases h : j = i
  · subst h
    simp [setPrev]
  · simp [setPrev, h]

variable (first second : Option Nat)

@[simp] theorem next_link :
    (link nodes first second j).next = if first = some j then second else (nodes j).next := by
  cases first <;> cases second <;> simp [link, eq_comm]

@[simp] theorem prev_link :
    (link nodes first second j).prev = if second = some j then first else (nodes j).prev := by
  cases first <;> cases second <;> simp [link, eq_comm]

@[simp] theorem value_link : (link nodes first second j).value = (nodes j).value := by
  cases first <;> cases second <;> simp [link]

/-! ## The two chains -/

variable {l : LinkedNodes α} {used free : List Nat} {nodes}

/-- The nodes are linked one after the other. -/
def Forward (nodes : Nat → ListNode α) (chain : List Nat) : Prop :=
  ∀ before i after, chain = before ++ i :: after → (nodes i).next = after.head?

/-- The nodes are linked back. -/
def Backward (nodes : Nat → ListNode α) (chain : List Nat) : Prop :=
  ∀ before i after, chain = before ++ i :: after → (nodes i).prev = before.getLast?

/-- The nodes of the values, in order, and the free ones. -/
structure Represents (l : LinkedNodes α) (used free : List Nat) : Prop where
  size : l.size = used.length
  pHead : l.pHead = used.head?
  pTail : l.pTail = used.getLast?
  pFree : l.pFree = free.head?
  forward : Forward l.underlying used
  backward : Backward l.underlying used
  freeForward : Forward l.underlying free
  nodup : (used ++ free).Nodup
  capacity : used.length + free.length = l.capacity

/-- The nodes are those of the list of values. -/
def Refines (l : LinkedNodes α) (list : LinkedList α) : Prop :=
  ∃ used free, l.Represents used free ∧ used.map (fun i => (l.underlying i).value) = list.items ∧
    list.capacity = l.capacity

/-- No node is free exactly when the list is as long as the array. -/
theorem Represents.isFull_iff (h : l.Represents used free) :
    l.isFull = true ↔ used.length = l.capacity := by
  have hcapacity := h.capacity
  rw [isFull, h.pFree]
  cases free with
  | nil => simpa using hcapacity
  | cons i free =>
    simp only [List.head?_cons, Option.isNone_some, Bool.false_eq_true, false_iff]
    rw [List.length_cons] at hcapacity
    omega

/-- What `Insert` does to the nodes. -/
theorem insert_spec {i : Nat} (hfree : l.pFree = some i) (value : α) {pLeft pRight : Option Nat}
    (hright : pRight ≠ some i) :
    ∃ l', l.insert value pLeft pRight = some l' ∧ l'.size = l.size + 1 ∧
      l'.pHead = (if pLeft.isNone then some i else l.pHead) ∧
      l'.pTail = (if pRight.isNone then some i else l.pTail) ∧
      l'.pFree = (l.underlying i).next ∧ l'.capacity = l.capacity ∧ ∀ j,
        (l'.underlying j).value = (if j = i then value else (l.underlying j).value) ∧
        (l'.underlying j).next = (if j = i then pRight else
          if pLeft = some j then some i else (l.underlying j).next) ∧
        (l'.underlying j).prev = if j = i then pLeft else
          if pRight = some j then some i else (l.underlying j).prev := by
  unfold insert
  rw [hfree]
  refine ⟨_, rfl, rfl, rfl, rfl, rfl, rfl, fun j => ?_⟩
  by_cases hj : j = i
  · subst hj
    simp [hright]
  · have hi : i ≠ j := Ne.symm hj
    simp [hj, hi]

/-- A list without repetition that ends with an element does so at one place. -/
theorem getLast?_append_cons_eq {before after : List Nat} {i : Nat}
    (hnodup : (before ++ i :: after).Nodup) :
    (before ++ i :: after).getLast? = some i ↔ after = [] := by
  cases after with
  | nil => simp
  | cons a after =>
    have hnot : i ∉ a :: after := (List.nodup_cons.mp (List.Nodup.of_append_right hnodup)).1
    simp only [reduceCtorEq, iff_false]
    intro hlast
    rw [List.getLast?_append_of_ne_nil _ (by simp), List.getLast?_cons_cons] at hlast
    exact hnot (List.mem_of_getLast? hlast)

theorem head?_append_cons_eq {before after : List Nat} {i : Nat}
    (hnodup : (before ++ i :: after).Nodup) :
    (before ++ i :: after).head? = some i ↔ before = [] := by
  cases before with
  | nil => simp
  | cons a before =>
    have hne : a ≠ i := by
      rintro rfl
      exact (List.nodup_cons.mp hnodup).1 (by simp)
    simp [hne]

/-- A place in two lists behind each other is in one of them. -/
theorem split_append {before after front rest : List Nat} {j : Nat}
    (h : before ++ after = front ++ j :: rest) :
    (∃ m, front = before ++ m ∧ after = m ++ j :: rest) ∨
      ∃ m, before = front ++ j :: m ∧ rest = m ++ after := by
  rcases List.append_eq_append_iff.mp h with ⟨m, hfront, hafter⟩ | ⟨m, hbefore, hrest⟩
  · exact .inl ⟨m, hfront, hafter⟩
  · cases m with
    | nil => exact .inl ⟨[], by simpa using hbefore.symm, by simpa using hrest.symm⟩
    | cons a m =>
      obtain ⟨rfl, rfl⟩ := List.cons.inj hrest
      exact .inr ⟨m, hbefore, rfl⟩

/-- A value is put between two nodes when a node is free. -/
theorem Represents.insert {before after : List Nat} {i : Nat}
    (h : l.Represents (before ++ after) (i :: free)) (value : α) :
    ∃ l', l.insert value before.getLast? after.head? = some l' ∧
      l'.Represents (before ++ i :: after) free ∧ l'.capacity = l.capacity ∧
      ∀ j, (l'.underlying j).value = if j = i then value else (l.underlying j).value := by
  have hused := List.Nodup.of_append_left h.nodup
  have hfrees := List.Nodup.of_append_right h.nodup
  have hdisjoint := List.disjoint_of_nodup_append h.nodup
  have hparts := List.disjoint_of_nodup_append hused
  have hnot : i ∉ before ++ after := fun hmem => hdisjoint hmem List.mem_cons_self
  have hright : after.head? ≠ some i := fun hhead =>
    hnot (List.mem_append_right _ (List.mem_of_head? hhead))
  obtain ⟨l', hinsert, hsize, hhead, htail, hfree, hcapacity, hnodes⟩ :=
    insert_spec (show l.pFree = some i from h.pFree) value hright
  have hne {j : Nat} (hj : j ∈ before ++ after) : j ≠ i := fun heq => hnot (heq ▸ hj)
  refine ⟨l', hinsert, ?_, hcapacity, fun j => (hnodes j).1⟩
  constructor
  · rw [hsize, h.size]
    simp only [List.length_append, List.length_cons]
    omega
  · rw [hhead, h.pHead]
    cases before with
    | nil => rfl
    | cons j before => simp
  · rw [htail, h.pTail]
    cases after with
    | nil => simp
    | cons j after => simp
  · rw [hfree]
    exact h.freeForward [] i free rfl
  · intro front j rest heq
    rw [(hnodes j).2.1]
    rcases split_append heq with ⟨m, rfl, hm⟩ | ⟨m, rfl, rfl⟩
    · cases m with
      | nil =>
        obtain ⟨rfl, rfl⟩ := List.cons.inj hm
        rw [if_pos rfl]
      | cons a m =>
        rw [List.cons_append] at hm
        obtain ⟨rfl, rfl⟩ := List.cons.inj hm
        have hj : j ∈ before ++ (m ++ j :: rest) := by simp
        have hlast : before.getLast? ≠ some j := fun hlast =>
          hparts (List.mem_of_getLast? hlast) (by simp)
        rw [if_neg (hne hj), if_neg hlast]
        exact h.forward (before ++ m) j rest (by simp)
    · have hj : j ∈ front ++ j :: m ++ after := by simp
      have hbefore := List.Nodup.of_append_left hused
      rw [if_neg (hne hj)]
      by_cases hm : m = []
      · rw [if_pos ((getLast?_append_cons_eq hbefore).mpr hm), hm]
        rfl
      · rw [if_neg ((getLast?_append_cons_eq hbefore).not.mpr hm),
          h.forward front j (m ++ after) (by simp)]
        cases m with
        | nil => exact absurd rfl hm
        | cons a m => rfl
  · intro front j rest heq
    rw [(hnodes j).2.2]
    rcases split_append heq with ⟨m, rfl, hm⟩ | ⟨m, rfl, rfl⟩
    · cases m with
      | nil =>
        obtain ⟨rfl, rfl⟩ := List.cons.inj hm
        rw [if_pos rfl, List.append_nil]
      | cons a m =>
        rw [List.cons_append] at hm
        obtain ⟨rfl, rfl⟩ := List.cons.inj hm
        have hj : j ∈ before ++ (m ++ j :: rest) := by simp
        have hafter := List.Nodup.of_append_right hused
        rw [if_neg (hne hj)]
        by_cases hm : m = []
        · rw [if_pos ((head?_append_cons_eq hafter).mpr hm), hm, List.getLast?_concat]
        · rw [if_neg ((head?_append_cons_eq hafter).not.mpr hm),
            h.backward (before ++ m) j rest (by simp)]
          rcases List.eq_nil_or_concat m with rfl | ⟨m, last, rfl⟩
          · exact absurd rfl hm
          · rw [List.concat_eq_append, ← List.cons_append, ← List.append_assoc,
              ← List.append_assoc, List.getLast?_concat, List.getLast?_concat]
    · have hj : j ∈ front ++ j :: m ++ after := by simp
      have hfirst : after.head? ≠ some j := fun hfirst =>
        hparts (by simp) (List.mem_of_head? hfirst)
      rw [if_neg (hne hj), if_neg hfirst]
      exact h.backward front j (m ++ after) (by simp)
  · intro front j rest heq
    have hj : j ∈ free := by simp [heq]
    have hji : j ≠ i := fun heq => (List.nodup_cons.mp hfrees).1 (heq ▸ hj)
    have hlast : before.getLast? ≠ some j := fun hlast =>
      hdisjoint (List.mem_append_left _ (List.mem_of_getLast? hlast)) (List.mem_cons_of_mem _ hj)
    rw [(hnodes j).2.1, if_neg hji, if_neg hlast]
    exact h.freeForward (i :: front) j rest (by rw [heq]; rfl)
  · have hnodup := h.nodup
    rw [List.nodup_middle] at hnodup
    rwa [List.append_assoc, List.cons_append, List.nodup_middle, ← List.append_assoc]
  · have hlength := h.capacity
    rw [hcapacity]
    simp only [List.length_append, List.length_cons] at hlength ⊢
    omega

/-- A value is appended when a node is free. -/
theorem Represents.add {i : Nat} (h : l.Represents used (i :: free)) (value : α) :
    ∃ l', l.add value = some l' ∧ l'.Represents (used ++ [i]) free ∧ l'.capacity = l.capacity ∧
      ∀ j, (l'.underlying j).value = if j = i then value else (l.underlying j).value := by
  have hbefore : l.Represents (used ++ []) (i :: free) := by rwa [List.append_nil]
  rw [LinkedNodes.add, h.pTail]
  exact hbefore.insert value

/-- What removing does to the nodes. -/
theorem remove_spec (l : LinkedNodes α) (i j : Nat) :
    ((l.remove i).underlying j).value = (l.underlying j).value ∧
      ((l.remove i).underlying j).next =
        (if j = i then l.pFree else if (l.underlying i).prev = some j then (l.underlying i).next
          else (l.underlying j).next) ∧
      ((l.remove i).underlying j).prev =
        if j = i then none else if l.pFree = some j then some i else
          if (l.underlying i).next = some j then (l.underlying i).prev
          else (l.underlying j).prev := by
  unfold remove
  dsimp only
  cases l.pFree with
  | none => simp
  | some free => simp [eq_comm]

/-- The node of a value is removed, and is free. -/
theorem Represents.remove {before after : List Nat} {i : Nat}
    (h : l.Represents (before ++ i :: after) free) :
    (l.remove i).Represents (before ++ after) (i :: free) := by
  have hnext := h.forward before i after rfl
  have hprev := h.backward before i after rfl
  have hused := List.Nodup.of_append_left h.nodup
  have hdisjoint := List.disjoint_of_nodup_append h.nodup
  have hbefore : i ∉ before := fun hmem =>
    List.disjoint_of_nodup_append hused hmem List.mem_cons_self
  have hafter : i ∉ after := (List.nodup_cons.mp (List.Nodup.of_append_right hused)).1
  have hparts := List.disjoint_of_nodup_append hused
  have hne {j : Nat} (hj : j ∈ before ++ after) : j ≠ i := by
    rintro rfl
    exact (List.mem_append.mp hj).elim hbefore hafter
  have hfree {j : Nat} (hj : j ∈ before ++ after) : l.pFree ≠ some j := by
    intro hsome
    rw [h.pFree] at hsome
    refine hdisjoint ?_ (List.mem_of_head? hsome)
    simp only [List.mem_append, List.mem_cons] at hj ⊢
    tauto
  constructor
  · show l.size - 1 = _
    rw [h.size]
    simp
  · show (if (l.underlying i).prev.isNone then (l.underlying i).next else l.pHead) = _
    rw [hprev, hnext, h.pHead]
    cases before with
    | nil => simp
    | cons a before => simp
  · show (if (l.underlying i).next.isNone then (l.underlying i).prev else l.pTail) = _
    rw [hprev, hnext, h.pTail]
    cases after with
    | nil => simp
    | cons a after => simp
  · rfl
  · intro front j rest heq
    have hj : j ∈ before ++ after := by simp [heq]
    rw [(remove_spec l i j).2.1, if_neg (hne hj), hprev, hnext]
    rcases split_append heq with ⟨m, rfl, rfl⟩ | ⟨m, rfl, rfl⟩
    · have hlast : before.getLast? ≠ some j := fun hlast =>
        hparts (List.mem_of_getLast? hlast) (by simp)
      rw [if_neg hlast]
      exact h.forward (before ++ i :: m) j rest (by simp)
    · rw [h.forward front j (m ++ i :: after) (by simp)]
      by_cases hm : m = []
      · rw [if_pos ((getLast?_append_cons_eq (List.Nodup.of_append_left hused)).mpr hm), hm]
        rfl
      · rw [if_neg ((getLast?_append_cons_eq (List.Nodup.of_append_left hused)).not.mpr hm)]
        cases m with
        | nil => exact absurd rfl hm
        | cons a m => rfl
  · intro front j rest heq
    have hj : j ∈ before ++ after := by simp [heq]
    rw [(remove_spec l i j).2.2, if_neg (hne hj), if_neg (hfree hj), hprev, hnext]
    rcases split_append heq with ⟨m, rfl, rfl⟩ | ⟨m, rfl, rfl⟩
    · have hrest := (List.nodup_cons.mp (List.Nodup.of_append_right hused)).2
      rw [h.backward (before ++ i :: m) j rest (by simp)]
      by_cases hm : m = []
      · rw [if_pos ((head?_append_cons_eq hrest).mpr hm), hm, List.append_nil]
      · rw [if_neg ((head?_append_cons_eq hrest).not.mpr hm)]
        rcases List.eq_nil_or_concat m with rfl | ⟨m, last, rfl⟩
        · exact absurd rfl hm
        · rw [List.concat_eq_append, ← List.cons_append, ← List.append_assoc,
            ← List.append_assoc, List.getLast?_concat, List.getLast?_concat]
    · have hfirst : after.head? ≠ some j := fun hfirst =>
        hparts (by simp) (List.mem_cons_of_mem _ (List.mem_of_head? hfirst))
      rw [if_neg hfirst]
      exact h.backward front j (m ++ i :: after) (by simp)
  · intro front j rest heq
    rw [(remove_spec l i j).2.1]
    cases front with
    | nil =>
      obtain ⟨rfl, rfl⟩ := List.cons.inj heq
      rw [if_pos rfl, h.pFree]
    | cons a front =>
      obtain ⟨rfl, rfl⟩ := List.cons.inj heq
      have hj : j ∈ front ++ j :: rest := by simp
      have hji : j ≠ i := by
        rintro rfl
        exact hdisjoint (by simp) hj
      have hlast : (l.underlying i).prev ≠ some j := by
        rw [hprev]
        intro hlast
        exact hdisjoint (List.mem_append_left _ (List.mem_of_getLast? hlast)) hj
      rw [if_neg hji, if_neg hlast]
      exact h.freeForward front j rest rfl
  · have hnodup := h.nodup
    rw [List.append_assoc, List.cons_append, List.nodup_middle] at hnodup
    rwa [List.nodup_middle, List.append_assoc]
  · have hlength := h.capacity
    show _ = l.capacity
    simp only [List.length_append, List.length_cons] at hlength ⊢
    omega

/-! ## Loops over the nodes -/

/-- The search from a place in the chain. -/
theorem findFirst_eq {nodes : Nat → ListNode α} {front rest : List Nat}
    (hforward : Forward nodes (front ++ rest)) (select : α → Bool) {fuel : Nat}
    (hfuel : rest.length ≤ fuel) :
    findFirst nodes select fuel rest.head? = rest.find? fun i => select (nodes i).value := by
  induction rest generalizing front fuel with
  | nil => cases fuel <;> rfl
  | cons i rest ih =>
    cases fuel with
    | zero => cases hfuel
    | succ fuel =>
      have hforward' : Forward nodes ((front ++ [i]) ++ rest) := by simpa using hforward
      have hrest := ih hforward' (Nat.le_of_succ_le_succ hfuel)
      rw [List.head?_cons, findFirst, hforward front i rest rfl, hrest, List.find?_cons]
      split <;> simp_all

/-- The nodes that match are removed from the rest of the chain. -/
theorem Represents.removeAllFrom {front rest : List Nat} (h : l.Represents (front ++ rest) free)
    (isMatch : α → Bool) {fuel : Nat} (hfuel : rest.length ≤ fuel) :
    ∃ l' free', LinkedNodes.removeAllFrom isMatch fuel rest.head? rest.tail.head? l = l' ∧
      l'.Represents (front ++ rest.filter fun i => !isMatch (l.underlying i).value) free' ∧
      ((rest.filter fun i => !isMatch (l.underlying i).value) ++ free').Perm (rest ++ free) ∧
      l'.capacity = l.capacity ∧ ∀ j, (l'.underlying j).value = (l.underlying j).value := by
  induction rest generalizing l front free fuel with
  | nil =>
    refine ⟨l, free, ?_, h, .refl _, rfl, fun _ => rfl⟩
    cases fuel <;> rfl
  | cons i rest ih =>
    cases fuel with
    | zero => cases hfuel
    | succ fuel =>
      have hfuel := Nat.le_of_succ_le_succ hfuel
      -- the iterator is read before the node is removed
      have hahead : (rest.head?.bind fun i => (l.underlying i).next) = rest.tail.head? := by
        cases rest with
        | nil => rfl
        | cons next rest => exact h.forward (front ++ [i]) next rest (by simp)
      rw [List.head?_cons, List.tail_cons, LinkedNodes.removeAllFrom, hahead]
      cases hmatch : isMatch (l.underlying i).value with
      | true =>
        obtain ⟨l', free', hloop, hrepresents, hperm, hcapacity, hvalues⟩ := ih h.remove hfuel
        have hvalue (j : Nat) := (remove_spec l i j).1
        simp only [hvalue] at hrepresents hperm hvalues
        refine ⟨l', free', by simpa using hloop, ?_, ?_, hcapacity, hvalues⟩
        · simpa [hmatch] using hrepresents
        · rw [List.filter_cons_of_neg (by simp [hmatch])]
          exact hperm.trans List.perm_middle
      | false =>
        have hkept : l.Represents (front ++ [i] ++ rest) free := by simpa using h
        obtain ⟨l', free', hloop, hrepresents, hperm, hcapacity, hvalues⟩ := ih hkept hfuel
        refine ⟨l', free', by simpa using hloop, ?_, ?_, hcapacity, hvalues⟩
        · simpa [hmatch] using hrepresents
        · rw [List.filter_cons_of_pos (by simp [hmatch])]
          exact hperm.cons i

/-! ## The nodes of a list of values -/

variable {list : LinkedList α}

theorem map_value_congr {l l' : LinkedNodes α}
    (h : ∀ j, (l'.underlying j).value = (l.underlying j).value) (chain : List Nat) :
    chain.map (fun i => (l'.underlying i).value) = chain.map fun i => (l.underlying i).value :=
  List.map_congr_left fun i _ => h i

theorem Refines.isFull_eq (h : l.Refines list) : l.isFull = list.isFull := by
  obtain ⟨used, free, hrepresents, hitems, hcapacity⟩ := h
  have hlength : used.length = list.items.length := by rw [← hitems, List.length_map]
  rw [Bool.eq_iff_iff, hrepresents.isFull_iff, hlength, ← hcapacity, LinkedList.isFull, beq_iff_eq]

/-- A value is appended to both, or to none of them. -/
theorem Refines.add (h : l.Refines list) (value : α) :
    (l.add value = none ∧ list.add value = none) ∨
      ∃ l' list', l.add value = some l' ∧ list.add value = some list' ∧ l'.Refines list' := by
  obtain ⟨used, free, hrepresents, hitems, hcapacity⟩ := h
  have hlength : used.length = list.items.length := by rw [← hitems, List.length_map]
  have htotal := hrepresents.capacity
  cases free with
  | nil =>
    left
    constructor
    · rw [LinkedNodes.add, LinkedNodes.insert, hrepresents.pFree]
      rfl
    · rw [LinkedList.add, dif_neg]
      rw [List.length_nil] at htotal
      omega
  | cons i free =>
    right
    obtain ⟨l', hadd, hrepresents', hkept, hvalues⟩ := hrepresents.add value
    have hfit : list.items.length + 1 ≤ list.capacity := by
      rw [List.length_cons] at htotal
      omega
    refine ⟨l', _, hadd, dif_pos hfit, used ++ [i], free, hrepresents', ?_,
      hcapacity.trans hkept.symm⟩
    have hnot : ∀ j ∈ used, j ≠ i := by
      rintro j hj rfl
      exact List.disjoint_of_nodup_append hrepresents.nodup hj List.mem_cons_self
    have hused : used.map (fun j => (l'.underlying j).value) =
        used.map fun j => (l.underlying j).value :=
      List.map_congr_left fun j hj => by rw [hvalues, if_neg (hnot j hj)]
    rw [List.map_append, hused, hitems, List.map_singleton, hvalues, if_pos rfl]

theorem Refines.removeFirst (h : l.Refines list) (select : α → Bool) :
    (l.removeFirst select).Refines (list.removeFirst select) := by
  obtain ⟨used, free, hrepresents, hitems, hcapacity⟩ := h
  have hfuel : used.length ≤ l.capacity := by
    have := hrepresents.capacity
    omega
  have hforward : Forward l.underlying ([] ++ used) := hrepresents.forward
  have hfind := findFirst_eq hforward select hfuel
  unfold LinkedNodes.removeFirst
  rw [hrepresents.pHead, hfind]
  have hmap : (list.removeFirst select).items =
      (used.eraseP fun i => select (l.underlying i).value).map fun i => (l.underlying i).value := by
    show list.items.eraseP select = _
    rw [← hitems, List.eraseP_map]
    rfl
  cases hfound : used.find? fun i => select (l.underlying i).value with
  | none =>
    refine ⟨used, free, hrepresents, ?_, hcapacity⟩
    rw [hmap, List.eraseP_of_forall_not]
    exact fun i hi => List.find?_eq_none.mp hfound i hi
  | some i =>
    obtain ⟨hselected, before, after, rfl, hbefore⟩ := List.find?_eq_some_iff_append.mp hfound
    refine ⟨before ++ after, i :: free, hrepresents.remove, ?_, hcapacity⟩
    rw [map_value_congr (fun j => (remove_spec l i j).1), hmap,
      List.eraseP_append_right _ fun j hj => by simpa using hbefore j hj,
      List.eraseP_cons_of_pos (p := fun j => select (l.underlying j).value) hselected]

theorem Refines.removeAll (h : l.Refines list) (isMatch : α → Bool) :
    (l.removeAll isMatch).Refines (list.removeAll isMatch) := by
  obtain ⟨used, free, hrepresents, hitems, hcapacity⟩ := h
  have hfuel : used.length ≤ l.capacity := by
    have := hrepresents.capacity
    omega
  have hhead : (used.head?.bind fun i => (l.underlying i).next) = used.tail.head? := by
    cases used with
    | nil => rfl
    | cons i used => exact hrepresents.forward [] i used rfl
  have hfront : l.Represents ([] ++ used) free := hrepresents
  obtain ⟨l', free', hloop, hrepresents', -, hkept, hvalues⟩ :=
    hfront.removeAllFrom isMatch hfuel
  unfold LinkedNodes.removeAll
  rw [hrepresents.pHead, hhead, hloop]
  refine ⟨_, free', hrepresents', ?_, hcapacity.trans hkept.symm⟩
  rw [map_value_congr hvalues, List.nil_append]
  show _ = list.items.filter fun a => !isMatch a
  rw [← hitems, List.filter_map]
  rfl

theorem next_linkAll {nodes : Nat → ListNode α} (hnodes : ∀ j, (nodes j).next = none) (n j : Nat) :
    (linkAll nodes n j).next = if j < n then some (j + 1) else none := by
  induction n with
  | zero => simp [linkAll, hnodes]
  | succ n ih =>
    rw [linkAll, next_link, ih]
    rcases Nat.lt_trichotomy j n with hlt | rfl | hgt
    · have hne : (some n : Option Nat) ≠ some j := by
        simp only [ne_eq, Option.some.injEq]
        omega
      rw [if_neg hne, if_pos hlt, if_pos (by omega)]
    · rw [if_pos rfl, if_pos (by omega)]
    · have hne : (some n : Option Nat) ≠ some j := by
        simp only [ne_eq, Option.some.injEq]
        omega
      rw [if_neg hne, if_neg (by omega), if_neg (by omega)]

/-- At first all nodes are free. -/
theorem represents_initial (value : α) (capacity : Nat) :
    (initial value capacity).Represents [] (List.range capacity) := by
  constructor
  · rfl
  · rfl
  · rfl
  · cases capacity with
    | zero => rfl
    | succ n => rw [List.range_succ_eq_map]; rfl
  · intro before i after heq
    simp at heq
  · intro before i after heq
    simp at heq
  · intro before i after heq
    have hplace (k : Nat) : (before ++ i :: after)[k]? = if k < capacity then some k else none := by
      rw [← heq]
      split
      next hlt => exact List.getElem?_range hlt
      next hge => exact List.getElem?_eq_none (by simpa using hge)
    have hlength := congrArg List.length heq
    simp only [List.length_range, List.length_append, List.length_cons] at hlength
    have hi := hplace before.length
    rw [if_pos (by omega)] at hi
    obtain rfl : i = before.length := by simpa using hi
    have hnext := hplace (before.length + 1)
    rw [List.getElem?_append_right (by omega), Nat.add_sub_cancel_left,
      List.getElem?_cons_succ, ← List.head?_eq_getElem?] at hnext
    rw [hnext, initial, next_linkAll fun _ => rfl]
    by_cases hlast : before.length < capacity - 1
    · rw [if_pos hlast, if_pos (by omega)]
    · rw [if_neg hlast, if_neg (by omega)]
  · simpa using List.nodup_range
  · simp [initial]

theorem refines_initial (value : α) (capacity : Nat) :
    (initial value capacity).Refines (LinkedList.empty capacity) :=
  ⟨[], List.range capacity, represents_initial value capacity, rfl, rfl⟩

end LinkedNodes

/-! ## Runs -/

/-- A change of a list. -/
inductive ListOperation (α : Type) where
  | add (value : α)
  | removeFirst (select : α → Bool)
  | removeAll (isMatch : α → Bool)

/-- The list after a change; a value is not added when there is no room. -/
def LinkedList.apply {α : Type} (list : LinkedList α) : ListOperation α → LinkedList α
  | .add value => (list.add value).getD list
  | .removeFirst select => list.removeFirst select
  | .removeAll isMatch => list.removeAll isMatch

/-- What the user of the list asks for. -/
def LinkedNodes.apply {α : Type} (l : LinkedNodes α) : ListOperation α → LinkedNodes α
  | .add value => (l.add value).getD l
  | .removeFirst select => l.removeFirst select
  | .removeAll isMatch => l.removeAll isMatch

theorem LinkedNodes.Refines.apply {α : Type} {l : LinkedNodes α} {list : LinkedList α}
    (h : l.Refines list) (op : ListOperation α) : (l.apply op).Refines (list.apply op) := by
  cases op with
  | add value =>
    rw [LinkedNodes.apply, LinkedList.apply]
    rcases h.add value with ⟨hnone, hnone'⟩ | ⟨l', list', hadd, hadd', h'⟩
    · rw [hnone, hnone']
      exact h
    · rw [hadd, hadd']
      exact h'
  | removeFirst select => exact h.removeFirst select
  | removeAll isMatch => exact h.removeAll isMatch

/-- After any changes the nodes are those of the list of values, and the array is full exactly when
the list has as many values as the array has nodes. -/
theorem LinkedNodes.refines_run {α : Type} (value : α) (capacity : Nat)
    (ops : List (ListOperation α)) :
    let l := Library.run LinkedNodes.apply (initial value capacity) ops
    let list := Library.run LinkedList.apply (LinkedList.empty capacity) ops
    l.Refines list ∧ l.isFull = list.isFull := by
  have hrun : (Library.run LinkedNodes.apply (initial value capacity) ops).Refines
      (Library.run LinkedList.apply (LinkedList.empty capacity) ops) := by
    induction ops using List.reverseRecOn with
    | nil => exact refines_initial value capacity
    | append_singleton ops op ih =>
      rw [Library.run_append, Library.run_append]
      exact ih.apply op
  exact ⟨hrun, hrun.isFull_eq⟩

end Openpal
end Dnp3
