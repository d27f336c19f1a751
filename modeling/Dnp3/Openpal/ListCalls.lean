import Dnp3.Openpal.LinkedNodes
import Mathlib.Data.List.Find
import Mathlib.Data.List.TakeWhile

/-!
# The calls of a linked list

Beside appending and removing what a selector picks, `LinkedList` inserts a value in front of the
first one that is greater, removes a value or a node, and clears itself by linking the free nodes
behind those of the values.  After any calls an iterator visits the nodes of the values in order,
the free pointer leads to all the others, and every node of the array is in one of the two chains.
What a call does is stated on the nodes with their values: those that stay keep their node, their
value and their order.
-/

namespace Dnp3
namespace Openpal

namespace LinkedNodes

variable {α : Type}

/-! ## Operations -/

/-- `Insert` in front of the first value that is greater. -/
def insertOrdered (l : LinkedNodes α) (value : α) (lt : α → α → Bool) : Option (LinkedNodes α) :=
  match l.pFree with
  | none => none
  | some _ =>
    match findFirst l.underlying (fun v => lt value v) l.capacity l.pHead with
    | some pResult => l.insert value (l.underlying pResult).prev (some pResult)
    | none => l.insert value l.pTail none

/-- `Remove` the first node with a value. -/
def removeValue [BEq α] (l : LinkedNodes α) (value : α) : LinkedNodes α × Bool :=
  match findFirst l.underlying (fun v => v == value) l.capacity l.pHead with
  | some pNode => (l.remove pNode, true)
  | none => (l, false)

/-- The loop of `RemoveAll` with its count. -/
def removeAllLoop (isMatch : α → Bool) : Nat → (pCurrent iter : Option Nat) → Nat →
    LinkedNodes α → LinkedNodes α × Nat
  | 0, _, _, count, l => (l, count)
  | _, none, _, count, l => (l, count)
  | fuel + 1, some pCurrent, iter, count, l =>
    let ahead := iter.bind fun i => (l.underlying i).next
    if isMatch (l.underlying pCurrent).value then
      removeAllLoop isMatch fuel iter ahead (count + 1) (l.remove pCurrent)
    else removeAllLoop isMatch fuel iter ahead count l

/-- `Clear` links the free nodes behind the tail. -/
def clear (l : LinkedNodes α) : LinkedNodes α :=
  if l.size = 0 then l
  else
    { size := 0
      pHead := none
      pTail := none
      pFree := l.pHead
      capacity := l.capacity
      underlying := link l.underlying l.pTail l.pFree }

/-! ## Iterating -/

/-- The nodes that an iterator visits; there are no more than the array has. -/
def nodesFrom (nodes : Nat → ListNode α) : Nat → Option Nat → List Nat
  | 0, _ => []
  | _, none => []
  | fuel + 1, some i => i :: nodesFrom nodes fuel (nodes i).next

/-- The nodes from the head. -/
def used (l : LinkedNodes α) : List Nat := nodesFrom l.underlying l.capacity l.pHead

/-- The nodes from the free pointer. -/
def unused (l : LinkedNodes α) : List Nat := nodesFrom l.underlying l.capacity l.pFree

/-- The nodes from the head with their values. -/
def entries (l : LinkedNodes α) : List (Nat × α) := l.used.map fun i => (i, (l.underlying i).value)

theorem nodesFrom_eq {nodes : Nat → ListNode α} {front rest : List Nat}
    (hforward : Forward nodes (front ++ rest)) {fuel : Nat} (hfuel : rest.length ≤ fuel) :
    nodesFrom nodes fuel rest.head? = rest := by
  induction rest generalizing front fuel with
  | nil => cases fuel <;> rfl
  | cons i rest ih =>
    cases fuel with
    | zero => cases hfuel
    | succ fuel =>
      have hforward' : Forward nodes ((front ++ [i]) ++ rest) := by simpa using hforward
      rw [List.head?_cons, nodesFrom, hforward front i rest rfl,
        ih hforward' (Nat.le_of_succ_le_succ hfuel)]

variable {l : LinkedNodes α} {free : List Nat} {entries : List (Nat × α)}

theorem Represents.used_eq {chain : List Nat} (h : l.Represents chain free) : l.used = chain := by
  have hforward : Forward l.underlying ([] ++ chain) := h.forward
  have hcapacity := h.capacity
  rw [used, h.pHead, nodesFrom_eq hforward (by omega)]

theorem Represents.unused_eq {chain : List Nat} (h : l.Represents chain free) :
    l.unused = free := by
  have hforward : Forward l.underlying ([] ++ free) := h.freeForward
  have hcapacity := h.capacity
  rw [unused, h.pFree, nodesFrom_eq hforward (by omega)]

/-! ## The nodes with their values -/

/-- The nodes of the array with their values, in order, and the free ones. -/
structure Holds (l : LinkedNodes α) (entries : List (Nat × α)) (free : List Nat) : Prop where
  represents : l.Represents (entries.map Prod.fst) free
  values : ∀ e ∈ entries, (l.underlying e.1).value = e.2
  nodes : (entries.map Prod.fst ++ free).Perm (List.range l.capacity)

theorem Holds.entries_eq (h : l.Holds entries free) : l.entries = entries := by
  rw [LinkedNodes.entries, h.represents.used_eq, List.map_map]
  have hid : entries.map ((fun i => (i, (l.underlying i).value)) ∘ Prod.fst) = entries.map id :=
    List.map_congr_left fun e he => Prod.ext rfl (h.values e he)
  rw [hid, List.map_id]

/-- A search among the nodes is one among their values. -/
theorem Holds.findFirst (h : l.Holds entries free) (select : α → Bool) :
    LinkedNodes.findFirst l.underlying select l.capacity l.pHead =
      (entries.find? fun e => select e.2).map Prod.fst := by
  have hforward : Forward l.underlying ([] ++ entries.map Prod.fst) := h.represents.forward
  have hcapacity := h.represents.capacity
  rw [h.represents.pHead, findFirst_eq hforward select (by omega), List.find?_map]
  congr 1
  refine List.find?_congr fun e he => ?_
  rw [Function.comp_apply, h.values e he]

/-- A value is put between two nodes when a node is free. -/
theorem Holds.insert {before after : List (Nat × α)} {i : Nat}
    (h : l.Holds (before ++ after) (i :: free)) (value : α) :
    ∃ l', l.insert value (before.map Prod.fst).getLast? (after.map Prod.fst).head? = some l' ∧
      l'.Holds (before ++ (i, value) :: after) free ∧ l'.capacity = l.capacity := by
  have hrepresents : l.Represents (before.map Prod.fst ++ after.map Prod.fst) (i :: free) := by
    rw [← List.map_append]
    exact h.represents
  obtain ⟨l', hinsert, hrepresents', hcapacity, hvalues⟩ := hrepresents.insert value
  have hchain : (before ++ (i, value) :: after).map Prod.fst =
      before.map Prod.fst ++ i :: after.map Prod.fst := by
    rw [List.map_append, List.map_cons]
  refine ⟨l', hinsert, ⟨?_, fun e he => ?_, ?_⟩, hcapacity⟩
  · rw [hchain]
    exact hrepresents'
  · rw [hvalues]
    rcases List.mem_append.mp he with hbefore | hafter
    · rw [if_neg, h.values e (List.mem_append_left _ hbefore)]
      rintro rfl
      refine List.disjoint_of_nodup_append hrepresents.nodup ?_ List.mem_cons_self
      exact List.mem_append_left _ (List.mem_map_of_mem hbefore)
    · rcases List.mem_cons.mp hafter with heq | hrest
      · rw [heq, if_pos rfl]
      · rw [if_neg, h.values e (List.mem_append_right _ hrest)]
        rintro rfl
        refine List.disjoint_of_nodup_append hrepresents.nodup ?_ List.mem_cons_self
        exact List.mem_append_right _ (List.mem_map_of_mem hrest)
  · rw [hchain, hcapacity]
    have hmoved : (before.map Prod.fst ++ i :: after.map Prod.fst ++ free).Perm
        (before.map Prod.fst ++ after.map Prod.fst ++ i :: free) :=
      (List.perm_middle.append_right free).trans List.perm_middle.symm
    refine hmoved.trans ?_
    rw [← List.map_append]
    exact h.nodes

/-- The node of a value is removed, and is free. -/
theorem Holds.remove {before after : List (Nat × α)} {e : Nat × α}
    (h : l.Holds (before ++ e :: after) free) :
    (l.remove e.1).Holds (before ++ after) (e.1 :: free) := by
  have hrepresents : l.Represents (before.map Prod.fst ++ e.1 :: after.map Prod.fst) free := by
    rw [← List.map_cons, ← List.map_append]
    exact h.represents
  have hnodes := h.nodes
  rw [List.map_append, List.map_cons] at hnodes
  refine ⟨?_, fun e' he' => ?_, ?_⟩
  · rw [List.map_append]
    exact hrepresents.remove
  · rw [(remove_spec l e.1 e'.1).1]
    refine h.values e' ?_
    rcases List.mem_append.mp he' with hbefore | hafter
    · exact List.mem_append_left _ hbefore
    · exact List.mem_append_right _ (List.mem_cons_of_mem _ hafter)
  · rw [List.map_append]
    exact (List.perm_middle.trans (List.perm_middle.symm.append_right free)).trans hnodes

/-! ## What the operations do -/

/-- A value is not added exactly when no node is free. -/
theorem Holds.pFree_eq_none_iff (h : l.Holds entries free) :
    l.pFree = none ↔ l.size = l.capacity := by
  have hfull := h.represents.isFull_iff
  rw [← h.represents.size, isFull, Option.isNone_iff_eq_none] at hfull
  exact hfull

theorem Holds.add {i : Nat} (h : l.Holds entries (i :: free)) (value : α) :
    ∃ l', l.add value = some l' ∧ l'.Holds (entries ++ [(i, value)]) free ∧
      l'.capacity = l.capacity := by
  have hend : l.Holds (entries ++ []) (i :: free) := by rwa [List.append_nil]
  obtain ⟨l', hinsert, hholds, hcapacity⟩ := hend.insert value
  rw [LinkedNodes.add, h.represents.pTail]
  exact ⟨l', hinsert, hholds, hcapacity⟩

/-- A value is put in front of the first one that is greater. -/
theorem Holds.insertOrdered {i : Nat} (h : l.Holds entries (i :: free)) (value : α)
    (lt : α → α → Bool) :
    ∃ l', l.insertOrdered value lt = some l' ∧
      l'.Holds (entries.takeWhile (fun e => !lt value e.2) ++
        (i, value) :: entries.dropWhile fun e => !lt value e.2) free ∧
      l'.capacity = l.capacity := by
  have hfree : l.pFree = some i := h.represents.pFree
  rw [LinkedNodes.insertOrdered, hfree, h.findFirst fun v => lt value v]
  cases hfound : entries.find? fun e => lt value e.2 with
  | none =>
    have hnone : ∀ e ∈ entries, (!lt value e.2) = true := fun e he => by
      simpa using List.find?_eq_none.mp hfound e he
    rw [List.takeWhile_eq_self_iff.mpr hnone, List.dropWhile_eq_nil_iff.mpr hnone]
    exact h.add value
  | some e =>
    obtain ⟨hgreater, before, after, rfl, hbefore⟩ := List.find?_eq_some_iff_append.mp hfound
    have hnot : ¬ (fun e : Nat × α => !lt value e.2) e = true := by simp [hgreater]
    have hprev : (l.underlying e.1).prev = (before.map Prod.fst).getLast? :=
      h.represents.backward (before.map Prod.fst) e.1 (after.map Prod.fst) (by simp)
    rw [List.takeWhile_append_of_pos hbefore, List.dropWhile_append_of_pos hbefore,
      List.takeWhile_cons_of_neg (p := fun e : Nat × α => !lt value e.2) hnot,
      List.dropWhile_cons_of_neg (p := fun e : Nat × α => !lt value e.2) hnot, List.append_nil]
    dsimp only [Option.map_some]
    rw [hprev]
    exact h.insert value

/-- What removing the first entry that is picked does. -/
theorem Holds.removeFound (h : l.Holds entries free) (select : Nat × α → Bool) :
    ∃ l' free', (entries.find? select).elim l (fun e => l.remove e.1) = l' ∧
      l'.Holds (entries.eraseP select) free' ∧ l'.capacity = l.capacity := by
  cases hfound : entries.find? select with
  | none =>
    refine ⟨l, free, rfl, ?_, rfl⟩
    rwa [List.eraseP_of_forall_not fun e he => List.find?_eq_none.mp hfound e he]
  | some e =>
    obtain ⟨hpicked, before, after, rfl, hbefore⟩ := List.find?_eq_some_iff_append.mp hfound
    refine ⟨_, e.1 :: free, rfl, ?_, rfl⟩
    rw [List.eraseP_append_right _ fun a ha => by simpa using hbefore a ha,
      List.eraseP_cons_of_pos hpicked]
    exact h.remove

theorem removeAllLoop_fst (isMatch : α → Bool) (fuel : Nat) (pCurrent iter : Option Nat)
    (count : Nat) (l : LinkedNodes α) :
    (removeAllLoop isMatch fuel pCurrent iter count l).1 =
      removeAllFrom isMatch fuel pCurrent iter l := by
  induction fuel generalizing pCurrent iter count l with
  | zero => rfl
  | succ fuel ih =>
    cases pCurrent with
    | none => rfl
    | some i =>
      rw [removeAllLoop, removeAllFrom]
      split_ifs <;> exact ih ..

/-- The count is that of the values that match. -/
theorem Represents.count_removeAllLoop {front rest : List Nat}
    (h : l.Represents (front ++ rest) free) (isMatch : α → Bool) {fuel : Nat}
    (hfuel : rest.length ≤ fuel) (count : Nat) :
    (removeAllLoop isMatch fuel rest.head? rest.tail.head? count l).2 =
      count + rest.countP fun i => isMatch (l.underlying i).value := by
  induction rest generalizing l front free fuel count with
  | nil => cases fuel <;> rfl
  | cons i rest ih =>
    cases fuel with
    | zero => cases hfuel
    | succ fuel =>
      have hfuel := Nat.le_of_succ_le_succ hfuel
      have hahead : (rest.head?.bind fun i => (l.underlying i).next) = rest.tail.head? := by
        cases rest with
        | nil => rfl
        | cons next rest => exact h.forward (front ++ [i]) next rest (by simp)
      rw [List.head?_cons, List.tail_cons, removeAllLoop, hahead]
      cases hmatch : isMatch (l.underlying i).value with
      | true =>
        have hrest := ih h.remove hfuel (count + 1)
        simp only [(remove_spec l i _).1] at hrest
        rw [if_pos rfl, hrest, List.countP_cons_of_pos (by simpa using hmatch)]
        omega
      | false =>
        have hkept : l.Represents (front ++ [i] ++ rest) free := by simpa using h
        rw [if_neg Bool.false_ne_true, ih hkept hfuel, List.countP_cons_of_neg (by simp [hmatch])]

/-- The entries that match are removed, and counted. -/
theorem Holds.removeAllLoop (h : l.Holds entries free) (isMatch : α → Bool) :
    ∃ l' free',
      LinkedNodes.removeAllLoop isMatch l.capacity l.pHead
          (l.pHead.bind fun i => (l.underlying i).next) 0 l =
        (l', entries.countP fun e => isMatch e.2) ∧
      l'.Holds (entries.filter fun e => !isMatch e.2) free' ∧ l'.capacity = l.capacity := by
  have hcapacity := h.represents.capacity
  have hhead : (l.pHead.bind fun i => (l.underlying i).next) =
      (entries.map Prod.fst).tail.head? := by
    rw [h.represents.pHead]
    cases hentries : entries with
    | nil => rfl
    | cons e rest =>
      exact h.represents.forward [] e.1 (rest.map Prod.fst) (by rw [hentries]; rfl)
  have hfront : l.Represents ([] ++ entries.map Prod.fst) free := h.represents
  have hfuel : (entries.map Prod.fst).length ≤ l.capacity := by omega
  obtain ⟨l', free', hloop, hrepresents, hperm, hkept, hvalues⟩ :=
    hfront.removeAllFrom isMatch hfuel
  have hcount := hfront.count_removeAllLoop isMatch hfuel 0
  have hmatches : ∀ e ∈ entries, isMatch (l.underlying e.1).value = isMatch e.2 :=
    fun e he => by rw [h.values e he]
  have hfilter : (entries.map Prod.fst).filter (fun i => !isMatch (l.underlying i).value) =
      (entries.filter fun e => !isMatch e.2).map Prod.fst := by
    rw [List.filter_map]
    congr 1
    exact List.filter_congr fun e he => congrArg not (hmatches e he)
  rw [List.nil_append, hfilter] at hrepresents
  rw [hfilter] at hperm
  refine ⟨l', free', Prod.ext ?_ ?_, ⟨hrepresents, fun e he => ?_, ?_⟩, hkept⟩
  · rw [removeAllLoop_fst, hhead, h.represents.pHead, hloop]
  · rw [hhead, h.represents.pHead, hcount, List.countP_map, Nat.zero_add]
    exact List.countP_congr fun e he => by rw [Function.comp_apply, hmatches e he]
  · rw [hvalues]
    exact h.values e (List.mem_of_mem_filter he)
  · rw [hkept]
    exact hperm.trans h.nodes

/-- The free nodes are those of the values and the ones that were free. -/
theorem Holds.clear (h : l.Holds entries free) :
    ∃ free', l.clear.Holds [] free' ∧ l.clear.capacity = l.capacity := by
  have hsize := h.represents.size
  rw [List.length_map] at hsize
  rw [LinkedNodes.clear]
  by_cases hempty : l.size = 0
  · obtain rfl : entries = [] := List.length_eq_zero_iff.mp (hsize.symm.trans hempty)
    rw [if_pos hempty]
    exact ⟨free, h, rfl⟩
  rw [if_neg hempty]
  have hnodup := h.represents.nodup
  have hcapacity := h.represents.capacity
  have hdisjoint := List.disjoint_of_nodup_append hnodup
  have hused := List.Nodup.of_append_left hnodup
  refine ⟨entries.map Prod.fst ++ free, ⟨⟨rfl, rfl, rfl, ?_, ?_, ?_, ?_, ?_, ?_⟩, ?_, ?_⟩, rfl⟩
  · show l.pHead = _
    rw [h.represents.pHead]
    cases entries with
    | nil => exact absurd hsize hempty
    | cons e rest => rfl
  · intro before j after heq
    simp at heq
  · intro before j after heq
    simp at heq
  · intro before j after heq
    show (link l.underlying l.pTail l.pFree j).next = _
    rw [next_link, h.represents.pTail, h.represents.pFree]
    rcases split_append heq with ⟨m, rfl, hm⟩ | ⟨m, hm, rfl⟩
    · have hlast : (entries.map Prod.fst).getLast? ≠ some j := fun hlast =>
        hdisjoint (List.mem_of_getLast? hlast) (by simp [hm])
      rw [if_neg hlast]
      exact h.represents.freeForward m j after hm
    · rw [hm] at hused ⊢
      by_cases hlast : m = []
      · rw [if_pos ((getLast?_append_cons_eq hused).mpr hlast), hlast]
        rfl
      · rw [if_neg ((getLast?_append_cons_eq hused).not.mpr hlast),
          h.represents.forward before j m hm]
        cases m with
        | nil => exact absurd rfl hlast
        | cons a m => rfl
  · simpa using hnodup
  · show _ = l.capacity
    simpa using hcapacity
  · intro e he
    simp at he
  · simpa using h.nodes

end LinkedNodes

/-! ## Calls -/

/-- A call of the list. -/
inductive ListCall (α : Type) where
  | add (value : α)
  | insert (value : α) (lt : α → α → Bool)
  | remove (value : α)
  | removeNode (apNode : Nat)
  | removeFirst (select : α → Bool)
  | removeAll (isMatch : α → Bool)
  | clear

/-- What a call returns. -/
inductive ListReturn where
  | node (pNode : Option Nat)
  | removed (found : Bool)
  | count (count : Nat)
  | nothing
  deriving DecidableEq

namespace LinkedNodes

variable {α : Type} [BEq α]

/-- The list after a call, and what the call returns. -/
def call (l : LinkedNodes α) : ListCall α → LinkedNodes α × ListReturn
  | .add value =>
    match l.add value with
    | some l' => (l', .node l.pFree)
    | none => (l, .node none)
  | .insert value lt =>
    match l.insertOrdered value lt with
    | some l' => (l', .node l.pFree)
    | none => (l, .node none)
  | .remove value => ((l.removeValue value).1, .removed (l.removeValue value).2)
  | .removeNode apNode => (l.remove apNode, .nothing)
  | .removeFirst select =>
    (l.removeFirst select, .node (findFirst l.underlying select l.capacity l.pHead))
  | .removeAll isMatch =>
    let (l', count) := removeAllLoop isMatch l.capacity l.pHead
      (l.pHead.bind fun i => (l.underlying i).next) 0 l
    (l', .count count)
  | .clear => (l.clear, .nothing)

/-- A node that a caller removes is one of a value. -/
def Permits (l : LinkedNodes α) : ListCall α → Prop
  | .removeNode apNode => apNode ∈ l.used
  | _ => True

/-- The entries after a call; a new value takes the first free node. -/
def entriesAfter (entries : List (Nat × α)) (pFree : Option Nat) :
    ListCall α → List (Nat × α)
  | .add value => entries ++ (pFree.map fun i => (i, value)).toList
  | .insert value lt =>
    match pFree with
    | some i => entries.takeWhile (fun e => !lt value e.2) ++
        (i, value) :: entries.dropWhile fun e => !lt value e.2
    | none => entries
  | .remove value => entries.eraseP fun e => e.2 == value
  | .removeNode apNode => entries.eraseP fun e => e.1 == apNode
  | .removeFirst select => entries.eraseP fun e => select e.2
  | .removeAll isMatch => entries.filter fun e => !isMatch e.2
  | .clear => []

/-- What a call on some entries returns. -/
def returned (entries : List (Nat × α)) (pFree : Option Nat) : ListCall α → ListReturn
  | .add _ | .insert _ _ => .node pFree
  | .remove value => .removed (entries.any fun e => e.2 == value)
  | .removeNode _ | .clear => .nothing
  | .removeFirst select => .node ((entries.find? fun e => select e.2).map Prod.fst)
  | .removeAll isMatch => .count (entries.countP fun e => isMatch e.2)

variable {l : LinkedNodes α} {free : List Nat} {entries : List (Nat × α)}

/-- What a call leaves. -/
structure Left (l : LinkedNodes α) (entries : List (Nat × α)) (c : ListCall α) : Prop where
  holds : ∃ free', (l.call c).1.Holds (entriesAfter entries l.pFree c) free'
  returns : (l.call c).2 = returned entries l.pFree c
  capacity : (l.call c).1.capacity = l.capacity

/-- A value is taken over when a node is free, and the list is kept otherwise. -/
theorem Holds.left_of_new (h : l.Holds entries free) {c : ListCall α}
    {result : Option (LinkedNodes α)}
    (hcall : l.call c = match result with
      | some l' => (l', .node l.pFree)
      | none => (l, .node none))
    (hreturned : returned entries l.pFree c = .node l.pFree)
    (hnone : free = [] → result = none ∧ entriesAfter entries l.pFree c = entries)
    (hsome : ∀ i rest, free = i :: rest → ∃ l', result = some l' ∧
      l'.Holds (entriesAfter entries l.pFree c) rest ∧ l'.capacity = l.capacity) :
    l.Left entries c := by
  cases hfree : free with
  | nil =>
    obtain ⟨hresult, hentries⟩ := hnone hfree
    have hpFree : l.pFree = none := by rw [h.represents.pFree, hfree, List.head?_nil]
    rw [hresult] at hcall
    refine ⟨⟨free, ?_⟩, ?_, ?_⟩
    · rw [hcall, hentries]
      exact h
    · rw [hcall, hreturned, hpFree]
    · rw [hcall]
  | cons i rest =>
    obtain ⟨l', hresult, hholds, hcapacity⟩ := hsome i rest hfree
    rw [hresult] at hcall
    refine ⟨⟨rest, ?_⟩, ?_, ?_⟩
    · rw [hcall]
      exact hholds
    · rw [hcall, hreturned]
    · rw [hcall]
      exact hcapacity

theorem Holds.left_add (h : l.Holds entries free) (value : α) : l.Left entries (.add value) := by
  refine h.left_of_new rfl rfl (fun hfree => ?_) fun i rest hfree => ?_
  · have hpFree : l.pFree = none := by rw [h.represents.pFree, hfree, List.head?_nil]
    refine ⟨?_, ?_⟩
    · rw [LinkedNodes.add, LinkedNodes.insert, hpFree]
    · rw [entriesAfter, hpFree]
      exact List.append_nil entries
  · subst hfree
    have hpFree : l.pFree = some i := h.represents.pFree
    rw [entriesAfter, hpFree]
    exact h.add value

theorem Holds.left_insert (h : l.Holds entries free) (value : α) (lt : α → α → Bool) :
    l.Left entries (.insert value lt) := by
  refine h.left_of_new rfl rfl (fun hfree => ?_) fun i rest hfree => ?_
  · have hpFree : l.pFree = none := by rw [h.represents.pFree, hfree, List.head?_nil]
    refine ⟨?_, ?_⟩
    · rw [LinkedNodes.insertOrdered, hpFree]
    · rw [hpFree]
      rfl
  · subst hfree
    have hpFree : l.pFree = some i := h.represents.pFree
    rw [hpFree]
    exact h.insertOrdered value lt

theorem Holds.left_remove (h : l.Holds entries free) (value : α) :
    l.Left entries (.remove value) := by
  obtain ⟨l', free', hl', hholds, hcapacity⟩ := h.removeFound fun e => e.2 == value
  have hfind := h.findFirst fun v => v == value
  have hstate : (l.removeValue value).1 = l' := by
    rw [← hl', removeValue, hfind]
    cases entries.find? fun e => e.2 == value with
    | none => rfl
    | some e => rfl
  have hfound : (l.removeValue value).2 = entries.any fun e => e.2 == value := by
    rw [removeValue, hfind, ← List.isSome_find?]
    cases entries.find? fun e => e.2 == value with
    | none => rfl
    | some e => rfl
  refine ⟨⟨free', ?_⟩, ?_, ?_⟩
  · show (l.removeValue value).1.Holds _ _
    rw [hstate]
    exact hholds
  · exact congrArg ListReturn.removed hfound
  · show (l.removeValue value).1.capacity = _
    rw [hstate]
    exact hcapacity

theorem Holds.left_removeNode (h : l.Holds entries free) {apNode : Nat} (hmem : apNode ∈ l.used) :
    l.Left entries (.removeNode apNode) := by
  rw [h.represents.used_eq] at hmem
  obtain ⟨e, he, rfl⟩ := List.mem_map.mp hmem
  obtain ⟨l', free', hl', hholds, hcapacity⟩ := h.removeFound fun a => a.1 == e.1
  obtain ⟨found, hfound⟩ : ∃ found, entries.find? (fun a => a.1 == e.1) = some found :=
    Option.isSome_iff_exists.mp (List.find?_isSome.mpr ⟨e, he, beq_self_eq_true _⟩)
  have hsame : found.1 = e.1 := by simpa using List.find?_some hfound
  have hstate : l.remove e.1 = l' := by
    rw [← hl', hfound, ← hsame]
    rfl
  refine ⟨⟨free', ?_⟩, rfl, ?_⟩
  · show (l.remove e.1).Holds _ _
    rw [hstate]
    exact hholds
  · exact rfl

theorem Holds.left_removeFirst (h : l.Holds entries free) (select : α → Bool) :
    l.Left entries (.removeFirst select) := by
  obtain ⟨l', free', hl', hholds, hcapacity⟩ := h.removeFound fun e => select e.2
  have hfind := h.findFirst select
  have hstate : l.removeFirst select = l' := by
    rw [← hl', LinkedNodes.removeFirst, hfind]
    cases entries.find? fun e => select e.2 with
    | none => rfl
    | some e => rfl
  refine ⟨⟨free', ?_⟩, congrArg ListReturn.node hfind, ?_⟩
  · show (l.removeFirst select).Holds _ _
    rw [hstate]
    exact hholds
  · show (l.removeFirst select).capacity = _
    rw [hstate]
    exact hcapacity

theorem Holds.left_removeAll (h : l.Holds entries free) (isMatch : α → Bool) :
    l.Left entries (.removeAll isMatch) := by
  obtain ⟨l', free', hloop, hholds, hcapacity⟩ := h.removeAllLoop isMatch
  have hcall : l.call (.removeAll isMatch) =
      (l', .count (entries.countP fun e => isMatch e.2)) := by
    rw [call, hloop]
  refine ⟨⟨free', ?_⟩, ?_, ?_⟩
  · rw [hcall]
    exact hholds
  · rw [hcall]
    rfl
  · rw [hcall]
    exact hcapacity

/-- **What a call does to the nodes with their values.** -/
theorem Holds.call (h : l.Holds entries free) {c : ListCall α} (hc : l.Permits c) :
    l.Left entries c := by
  cases c with
  | add value => exact h.left_add value
  | insert value lt => exact h.left_insert value lt
  | remove value => exact h.left_remove value
  | removeNode apNode => exact h.left_removeNode hc
  | removeFirst select => exact h.left_removeFirst select
  | removeAll isMatch => exact h.left_removeAll isMatch
  | clear =>
    obtain ⟨free', hholds, hcapacity⟩ := h.clear
    exact ⟨⟨free', hholds⟩, rfl, hcapacity⟩

/-- The lists that calls lead to. -/
inductive Reached (value : α) (capacity : Nat) : LinkedNodes α → Prop where
  | initial : Reached value capacity (initial value capacity)
  | call {l : LinkedNodes α} {c : ListCall α} : Reached value capacity l → l.Permits c →
      Reached value capacity (l.call c).1

omit [BEq α] in
/-- All nodes are free at first. -/
theorem holds_initial (value : α) (capacity : Nat) :
    (initial value capacity).Holds [] (List.range capacity) := by
  refine ⟨represents_initial value capacity, fun e he => ?_, .refl _⟩
  cases he

theorem Reached.holds {value : α} {capacity : Nat} (h : Reached value capacity l) :
    (∃ entries free, l.Holds entries free) ∧ l.capacity = capacity := by
  induction h with
  | initial => exact ⟨⟨[], _, holds_initial value capacity⟩, rfl⟩
  | call _ hc ih =>
    obtain ⟨⟨entries, free, hholds⟩, hcapacity⟩ := ih
    have hleft := hholds.call hc
    obtain ⟨free', hholds'⟩ := hleft.holds
    exact ⟨⟨_, free', hholds'⟩, hleft.capacity.trans hcapacity⟩

/-- **After any calls** the nodes of the values and the free ones are all nodes of the array, each
once, linked in both directions from the head to the tail; a value is refused exactly when the list
is full; and a call does to the entries what its name says. -/
theorem reached_calls {value : α} {capacity : Nat} (h : Reached value capacity l) :
    l.Represents l.used l.unused ∧ (l.used ++ l.unused).Perm (List.range capacity) ∧
    (∀ v, (l.call (.add v)).2 = .node none ↔ l.size = capacity) ∧
    (∀ v lt, (l.call (.insert v lt)).2 = .node none ↔ l.size = capacity) ∧
    ∀ c, l.Permits c → (l.call c).1.entries = entriesAfter l.entries l.pFree c ∧
      (l.call c).2 = returned l.entries l.pFree c := by
  obtain ⟨⟨entries, free, hholds⟩, rfl⟩ := h.holds
  have hnull : (ListReturn.node l.pFree = .node none) ↔ l.size = l.capacity := by
    rw [ListReturn.node.injEq, hholds.pFree_eq_none_iff]
  rw [hholds.represents.used_eq, hholds.represents.unused_eq, hholds.entries_eq]
  refine ⟨hholds.represents, hholds.nodes, fun v => ?_, fun v lt => ?_, fun c hc => ?_⟩
  · rw [(hholds.left_add v).returns]
    exact hnull
  · rw [(hholds.left_insert v lt).returns]
    exact hnull
  · have hleft := hholds.call hc
    obtain ⟨free', hholds'⟩ := hleft.holds
    exact ⟨hholds'.entries_eq, hleft.returns⟩

/-- Four nodes hold 3, 5, 8 and 3, refuse 6, and take 4 in front of 8 on the node that 5 had; both
nodes of 3 are free in the end. -/
theorem reached_calls_example :
    let lt : Nat → Nat → Bool := fun a b => decide (a < b)
    let calls : List (ListCall Nat) :=
      [.add 5, .insert 3 lt, .add 8, .add 3, .add 6, .remove 5, .insert 4 lt,
        .removeAll fun v => v == 3]
    let l := calls.foldl (fun l c => (l.call c).1) (initial 0 4)
    (l.Represents l.used l.unused ∧ (l.used ++ l.unused).Perm (List.range 4) ∧
      (∀ v, (l.call (.add v)).2 = .node none ↔ l.size = 4) ∧
      (∀ v lt, (l.call (.insert v lt)).2 = .node none ↔ l.size = 4) ∧
      ∀ c, l.Permits c → (l.call c).1.entries = entriesAfter l.entries l.pFree c ∧
        (l.call c).2 = returned l.entries l.pFree c) ∧
    l.entries = [(0, 4), (2, 8)] ∧ l.unused = [3, 1] := by
  intro lt calls l
  have hinserted : Reached 0 4 ((calls.take 4).foldl (fun l c => (l.call c).1) (initial 0 4)) :=
    .call (.call (.call (.call .initial trivial) trivial) trivial) trivial
  have hreached : Reached 0 4 l :=
    .call (.call (.call (.call hinserted trivial) trivial) trivial) trivial
  exact ⟨reached_calls hreached, by decide, by decide⟩

/-- A value goes in front of the first one that is greater. -/
example :
    (((initial 0 3).call (.add 5)).1.call (.insert 3 fun a b => decide (a < b))).1.entries =
      [(1, 3), (0, 5)] := by decide

end LinkedNodes
end Openpal
end Dnp3
