import Mathlib.Data.List.DropRight

/-!
A ring buffer of fixed size whose newest item overwrites the oldest one once it is full.
`contents` is the abstract queue it stands for, oldest item first; pushing keeps exactly
the last `size` items of everything that was ever pushed.
-/

namespace Ptnet

structure RingBuffer (Item : Type*) (size : Nat) where
  slots : List Item
  tail : Nat
  count : Nat
  slots_length : slots.length = size
  tail_lt : tail < size
  count_le : count ≤ size
  packed : count < size → tail = count

namespace RingBuffer

variable {Item : Type*} {size : Nat}

def empty (filler : Item) (positive : 0 < size) : RingBuffer Item size where
  slots := List.replicate size filler
  tail := 0
  count := 0
  slots_length := List.length_replicate
  tail_lt := positive
  count_le := Nat.zero_le size
  packed := fun _ => rfl

def firstPos (ring : RingBuffer Item size) : Nat := if ring.count < size then 0 else ring.tail

def lastPos (ring : RingBuffer Item size) : Nat := (ring.tail + size - 1) % size

/-- The `index`-th oldest item. -/
def get (ring : RingBuffer Item size) (index : Nat) : Option Item :=
  if index < ring.count then ring.slots[(ring.firstPos + index) % size]? else none

def push (ring : RingBuffer Item size) (item : Item) : RingBuffer Item size where
  slots := ring.slots.set ring.tail item
  tail := (ring.tail + 1) % size
  count := min (ring.count + 1) size
  slots_length := by rw [List.length_set, ring.slots_length]
  tail_lt := Nat.mod_lt _ (Nat.zero_lt_of_lt ring.tail_lt)
  count_le := Nat.min_le_right _ _
  packed := by
    intro room
    have notFull : ring.count < size := by omega
    have atTail := ring.packed notFull
    rw [Nat.mod_eq_of_lt (by omega)]
    omega

def pushAll (ring : RingBuffer Item size) (items : List Item) : RingBuffer Item size :=
  items.foldl push ring

def modifySlot (ring : RingBuffer Item size) (slot : Nat) (change : Item → Item) :
    RingBuffer Item size where
  slots := ring.slots.modify slot change
  tail := ring.tail
  count := ring.count
  slots_length := by rw [List.length_modify, ring.slots_length]
  tail_lt := ring.tail_lt
  count_le := ring.count_le
  packed := ring.packed

def contents (ring : RingBuffer Item size) : List Item :=
  if ring.count < size then ring.slots.take ring.count
  else ring.slots.drop ring.tail ++ ring.slots.take ring.tail

theorem contents_length (ring : RingBuffer Item size) : ring.contents.length = ring.count := by
  have length := ring.slots_length
  have bounded := ring.count_le
  have inside := ring.tail_lt
  unfold contents
  split
  · simp only [List.length_take]
    omega
  · simp only [List.length_append, List.length_drop, List.length_take]
    omega

theorem contents_empty (filler : Item) (positive : 0 < size) :
    (empty filler positive).contents = [] :=
  List.eq_nil_of_length_eq_zero (contents_length _)

theorem get_eq (ring : RingBuffer Item size) (index : Nat) :
    ring.get index = ring.contents[index]? := by
  have length := ring.slots_length
  have bounded := ring.count_le
  have inside := ring.tail_lt
  unfold get contents firstPos
  by_cases room : ring.count < size
  · simp only [room, if_true, Nat.zero_add, List.getElem?_take]
    by_cases low : index < ring.count
    · simp only [low, if_true]
      rw [Nat.mod_eq_of_lt (by omega)]
    · simp only [low, if_false]
  · simp only [room, if_false, List.getElem?_append, List.length_drop, List.getElem?_drop,
      List.getElem?_take]
    by_cases low : index < ring.count
    · -- before or after the wrap at the end of the slots
      by_cases wrapped : ring.tail + index < size
      · rw [if_pos low, if_pos (by omega), Nat.mod_eq_of_lt wrapped]
      · rw [if_pos low, if_neg (by omega), if_pos (by omega), Nat.mod_eq_sub_mod (by omega),
          Nat.mod_eq_of_lt (by omega)]
        congr 1
        omega
    · rw [if_neg low, if_neg (by omega), if_neg (by omega)]

theorem filterMap_get (ring : RingBuffer Item size) (count : Nat) (bounded : count ≤ ring.count) :
    (List.range count).filterMap ring.get = ring.contents.take count := by
  induction count with
  | zero => rfl
  | succ index ih =>
      have inside : index < ring.contents.length := by
        rw [ring.contents_length]
        omega
      rw [List.range_succ, List.filterMap_append, ih (by omega), List.filterMap_cons,
        List.filterMap_nil, get_eq, List.getElem?_eq_getElem inside,
        List.take_succ_eq_append_getElem inside]

theorem get_lastPos (ring : RingBuffer Item size) (filled : 0 < ring.count) :
    ring.slots[ring.lastPos]? = ring.get (ring.count - 1) := by
  have bounded := ring.count_le
  have inside := ring.tail_lt
  unfold get lastPos firstPos
  rw [if_pos (by omega)]
  congr 1
  by_cases room : ring.count < size
  · have atTail := ring.packed room
    rw [if_pos room, Nat.zero_add, atTail, Nat.mod_eq_sub_mod (by omega)]
    congr 1
    omega
  · rw [if_neg room]
    congr 1
    omega

theorem get_firstPos (ring : RingBuffer Item size) (filled : 0 < ring.count) :
    ring.slots[ring.firstPos]? = ring.get 0 := by
  have positive : 0 < size := Nat.zero_lt_of_lt ring.tail_lt
  have inside : ring.firstPos < size := by
    unfold firstPos
    split
    · exact positive
    · exact ring.tail_lt
  unfold get
  rw [if_pos filled, Nat.add_zero, Nat.mod_eq_of_lt inside]

theorem take_succ_set (items : List Item) (position : Nat) (item : Item)
    (inside : position < items.length) :
    (items.set position item).take (position + 1) = items.take position ++ [item] := by
  rw [List.set_eq_take_append_cons_drop, if_pos inside]
  have length : (items.take position).length = position := List.length_take_of_le (by omega)
  rw [List.take_append, length, List.take_of_length_le (by omega), Nat.add_sub_cancel_left]
  rfl

theorem contents_push_room (ring : RingBuffer Item size) (item : Item)
    (room : ring.count < size) : (ring.push item).contents = ring.contents ++ [item] := by
  have length := ring.slots_length
  have atTail := ring.packed room
  have written := take_succ_set ring.slots ring.count item (by omega)
  have counted : (ring.push item).count = ring.count + 1 := Nat.min_eq_left room
  unfold contents
  rw [counted, if_pos room]
  by_cases still : ring.count + 1 < size
  · rw [if_pos still]
    simpa [push, atTail] using written
  · -- the ring has just become full: the tail is back at the first slot
    have wrapped : (ring.push item).tail = 0 := by
      change (ring.tail + 1) % size = 0
      rw [atTail, show ring.count + 1 = size by omega, Nat.mod_self]
    rw [if_neg still, wrapped, List.drop_zero, List.take_zero, List.append_nil, ← written,
      List.take_of_length_le (by rw [List.length_set]; omega)]
    simp [push, atTail]

theorem contents_push_full (ring : RingBuffer Item size) (item : Item)
    (full : ¬ ring.count < size) : (ring.push item).contents = (ring.contents ++ [item]).tail := by
  have length := ring.slots_length
  have bounded := ring.count_le
  have inside := ring.tail_lt
  have written := take_succ_set ring.slots ring.tail item (by omega)
  have counted : ¬ (ring.push item).count < size := by
    change ¬ min (ring.count + 1) size < size
    omega
  have oldest : ring.slots.drop ring.tail
      = ring.slots[ring.tail] :: ring.slots.drop (ring.tail + 1) :=
    List.drop_eq_getElem_cons (by omega)
  unfold contents
  rw [if_neg counted, if_neg full, oldest, List.cons_append, List.cons_append, List.tail_cons,
    List.append_assoc, ← written]
  change (ring.slots.set ring.tail item).drop ((ring.tail + 1) % size)
    ++ (ring.slots.set ring.tail item).take ((ring.tail + 1) % size) = _
  by_cases last : ring.tail + 1 = size
  · rw [last, Nat.mod_self, List.drop_zero, List.take_zero, List.append_nil,
      List.drop_eq_nil_of_le (by omega), List.nil_append,
      List.take_of_length_le (by rw [List.length_set]; omega)]
  · rw [Nat.mod_eq_of_lt (by omega), List.drop_set_of_lt (by omega)]

theorem contents_push (ring : RingBuffer Item size) (item : Item) :
    (ring.push item).contents =
      if ring.count < size then ring.contents ++ [item] else (ring.contents ++ [item]).tail := by
  split
  · exact contents_push_room ring item ‹_›
  · exact contents_push_full ring item ‹_›

theorem contents_push_rtake (ring : RingBuffer Item size) (item : Item) :
    (ring.push item).contents = (ring.contents ++ [item]).rtake size := by
  have length := ring.contents_length
  have bounded := ring.count_le
  rw [contents_push, List.rtake, List.length_append, length]
  split
  · rw [show ring.count + [item].length - size = 0 by simp; omega, List.drop_zero]
  · rw [show ring.count + [item].length - size = 1 by simp; omega, List.drop_one]

theorem rtake_append_rtake (first last : List Item) (kept : Nat) :
    (first.rtake kept ++ last).rtake kept = (first ++ last).rtake kept := by
  simp only [List.rtake_eq_reverse_take_reverse, List.reverse_append, List.reverse_reverse]
  congr 1
  rw [List.take_append, List.take_append, List.take_take, Nat.min_eq_left (Nat.sub_le _ _)]

theorem rtake_append_of_rtake (first last : List Item) (kept : Nat) :
    (first ++ last.rtake kept).rtake kept = (first ++ last).rtake kept := by
  simp only [List.rtake_eq_reverse_take_reverse, List.reverse_append, List.reverse_reverse]
  congr 1
  rw [List.take_append, List.take_append, List.take_take, Nat.min_self, List.length_take]
  by_cases fits : last.reverse.length ≤ kept
  · rw [Nat.min_eq_right fits]
  · rw [Nat.min_eq_left (by omega), Nat.sub_self, Nat.sub_eq_zero_of_le (by omega)]

/-- The window of the last `size` items over any sequence of pushes. -/
theorem contents_pushAll (ring : RingBuffer Item size) (items : List Item) :
    (ring.pushAll items).contents = (ring.contents ++ items).rtake size := by
  induction items generalizing ring with
  | nil =>
      have bounded : ring.contents.length ≤ size := ring.contents_length ▸ ring.count_le
      simp [pushAll, List.rtake, Nat.sub_eq_zero_of_le bounded]
  | cons item rest ih =>
      change ((ring.push item).pushAll rest).contents = _
      rw [ih, contents_push_rtake, rtake_append_rtake, List.append_assoc, List.singleton_append]

theorem firstPos_lt (ring : RingBuffer Item size) : ring.firstPos < size := by
  have inside := ring.tail_lt
  unfold firstPos
  split
  · omega
  · exact inside

/-- The slot `offset` places after the oldest item holds the `offset`-th oldest one. -/
theorem contents_modifySlot (ring : RingBuffer Item size) (offset : Nat) (change : Item → Item)
    (inside : offset < ring.count) :
    (ring.modifySlot ((offset + ring.firstPos) % size) change).contents
      = ring.contents.modify offset change := by
  have length := ring.slots_length
  have bounded := ring.count_le
  have atTail := ring.tail_lt
  unfold contents firstPos modifySlot
  by_cases room : ring.count < size
  · rw [if_pos room, if_pos room, if_pos room, Nat.add_zero, Nat.mod_eq_of_lt (by omega)]
    apply List.ext_getElem?
    intro index
    rw [List.getElem?_take, List.getElem?_modify, List.getElem?_modify, List.getElem?_take]
    split
    · rfl
    · rfl
  · -- the changed slot lies before or after the wrap at the end of the slots
    have slot : (offset + ring.tail) % size
        = if offset + ring.tail < size then offset + ring.tail else offset + ring.tail - size := by
      split
      · exact Nat.mod_eq_of_lt ‹_›
      · rw [Nat.mod_eq_sub_mod (by omega), Nat.mod_eq_of_lt (by omega)]
    rw [if_neg room, if_neg room, if_neg room]
    apply List.ext_getElem?
    intro index
    rw [List.getElem?_modify]
    simp only [List.getElem?_append, List.length_drop, List.length_modify, List.getElem?_drop,
      List.getElem?_take, List.getElem?_modify]
    by_cases early : index < ring.slots.length - ring.tail
    · have same : (offset + ring.tail) % size = ring.tail + index ↔ offset = index := by
        rw [slot]
        split <;> omega
      simp only [if_pos early, same]
    · rw [if_neg early, if_neg early]
      split
      · have same : (offset + ring.tail) % size = index - (ring.slots.length - ring.tail)
            ↔ offset = index := by
          rw [slot]
          split <;> omega
        simp only [same]
      · rfl

end RingBuffer

end Ptnet
