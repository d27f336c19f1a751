import Mathlib.Data.List.Basic

/-!
# A list in a finite array

`LinkedList` is a doubly linked list whose nodes lie in an array of fixed size.  Here it is the list
of its values in order, from the head, together with the size of the array.

What is kept here is what the users of such a list see: its items in the order in which they were
added, and that they are never more than the nodes.  The bound is a field of the structure; a list
that is full refuses another item.  How the source keeps the items, with the links of the nodes in
an array and a second list of the nodes that are free, is modelled in `Openpal.LinkedNodes`, and
`Openpal.ListCalls` connects the two.
-/

namespace Dnp3
namespace Openpal

/-- The values in order, and the number of nodes there are. -/
structure LinkedList (α : Type) where
  items : List α
  capacity : Nat
  length_le : items.length ≤ capacity

namespace LinkedList

variable {α : Type}

/-- A list without items. -/
def empty (capacity : Nat) : LinkedList α :=
  { items := [], capacity := capacity, length_le := Nat.zero_le _ }

/-- The number of items. -/
def size (l : LinkedList α) : Nat := l.items.length

/-- No node is free. -/
def isFull (l : LinkedList α) : Bool := l.items.length == l.capacity

/-- Append a value; nothing is returned when no node is free. -/
def add (l : LinkedList α) (value : α) : Option (LinkedList α) :=
  if h : l.items.length + 1 ≤ l.capacity then
    some { items := l.items ++ [value]
           capacity := l.capacity
           length_le := by rwa [List.length_append, List.length_singleton] }
  else none

/-- Remove the first value that matches, and return it. -/
def removeFirst (l : LinkedList α) (select : α → Bool) : LinkedList α where
  items := l.items.eraseP select
  capacity := l.capacity
  length_le := Nat.le_trans List.length_eraseP_le l.length_le

/-- Remove all values that match. -/
def removeAll (l : LinkedList α) (select : α → Bool) : LinkedList α where
  items := l.items.filter fun a => !select a
  capacity := l.capacity
  length_le := Nat.le_trans (List.length_filter_le _ _) l.length_le

/-- Change the values in place; a result of another length is not a change in place. -/
def update (l : LinkedList α) (items : List α) (h : items.length = l.items.length) :
    LinkedList α where
  items := items
  capacity := l.capacity
  length_le := by
    rw [h]
    exact l.length_le

end LinkedList
end Openpal
end Dnp3
