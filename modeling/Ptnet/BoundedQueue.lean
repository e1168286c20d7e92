import Mathlib.Data.List.Basic

/-!
First-in first-out queues of bounded capacity. An offer to a full queue is refused, and
what is taken leaves room.
-/

structure BoundedQueue (Item : Type*) where
  capacity : Nat
  items : List Item
  bounded : items.length ≤ capacity
  deriving DecidableEq, Repr

namespace BoundedQueue

variable {Item : Type*}

def empty (capacity : Nat) : BoundedQueue Item := ⟨capacity, [], Nat.zero_le capacity⟩

def isFull (queue : BoundedQueue Item) : Bool := queue.capacity ≤ queue.items.length

theorem push_bounded (queue : BoundedQueue Item) (item : Item) (room : ¬ queue.isFull = true) :
    (queue.items ++ [item]).length ≤ queue.capacity := by
  simp only [isFull, decide_eq_true_eq] at room
  rw [List.length_append, List.length_singleton]
  omega

def offer (queue : BoundedQueue Item) (item : Item) : BoundedQueue Item × Bool :=
  if room : queue.isFull = true then (queue, false)
  else (⟨queue.capacity, queue.items ++ [item], push_bounded queue item room⟩, true)

theorem rest_bounded (queue : BoundedQueue Item) : queue.items.tail.length ≤ queue.capacity := by
  rw [List.length_tail]
  exact Nat.le_trans (Nat.sub_le _ 1) queue.bounded

def take (queue : BoundedQueue Item) : Option (Item × BoundedQueue Item) :=
  queue.items.head?.map fun item => (item, ⟨queue.capacity, queue.items.tail, rest_bounded queue⟩)

section Operations

variable (queue : BoundedQueue Item) (item other : Item)

theorem offer_full (full : queue.isFull = true) : queue.offer item = (queue, false) := dif_pos full

theorem offer_room (room : queue.isFull = false) :
    (queue.offer item).2 = true ∧ (queue.offer item).1.items = queue.items ++ [item] := by
  have open' : ¬ queue.isFull = true := by simp [room]
  rw [offer, dif_neg open']
  exact ⟨rfl, rfl⟩

theorem offer_keeps (member : other ∈ queue.items) : other ∈ (queue.offer item).1.items := by
  cases full : queue.isFull with
  | true => rwa [offer_full queue item full]
  | false =>
      rw [(offer_room queue item full).2]
      exact List.mem_append_left _ member

theorem mem_offer :
    item ∈ (queue.offer item).1.items ↔ queue.isFull = false ∨ item ∈ queue.items := by
  cases full : queue.isFull with
  | true =>
      rw [offer_full queue item full]
      simp
  | false =>
      rw [(offer_room queue item full).2]
      simp

theorem take_some (rest : BoundedQueue Item) :
    queue.take = some (item, rest) → queue.items = item :: rest.items ∧ rest.isFull = false := by
  intro taken
  obtain ⟨first, head, same⟩ := Option.map_eq_some_iff.mp taken
  obtain ⟨rfl, rfl⟩ := Prod.mk.inj same
  obtain ⟨tail, items⟩ := List.head?_eq_some_iff.mp head
  have bounded := queue.bounded
  rw [items, List.length_cons] at bounded
  constructor
  · exact items.trans (congrArg (first :: ·) (congrArg List.tail items).symm)
  · simp only [isFull, items, List.tail_cons, decide_eq_false_iff_not, Nat.not_le]
    omega

theorem take_cons (others : List Item) (items : queue.items = item :: others) :
    ∃ rest, queue.take = some (item, rest) ∧ rest.items = others := by
  refine ⟨⟨queue.capacity, queue.items.tail, rest_bounded queue⟩, ?_, congrArg List.tail items⟩
  have first : queue.items.head? = some item := by rw [items, List.head?_cons]
  rw [take, first, Option.map_some]

end Operations

end BoundedQueue
