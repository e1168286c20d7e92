import Mathlib.Data.List.TakeDrop

/-!
Arrays of characters of a fixed size, and what the functions of string.h do to them. A text has no
terminator in it; a read that meets none leaves the array.
-/

namespace Ptnet

abbrev CText := List UInt8

/-- `char name[size]` -/
structure CharArray (size : Nat) where
  bytes : List UInt8
  length : bytes.length = size
  deriving DecidableEq

namespace CharArray

variable {size : Nat}

def zeros (size : Nat) : CharArray size := ⟨List.replicate size 0, List.length_replicate⟩

/-- `strncpy` with the size of the array: the rest of it is filled with zeros, and a text that is
    too long fills the array without a terminator. -/
def strncpy (size : Nat) (source : CText) : CharArray size where
  bytes := source.take size ++ List.replicate (size - source.length) 0
  length := by
    rw [List.length_append, List.length_take, List.length_replicate]
    omega

/-- `array[index] = byte` -/
def set (array : CharArray size) (index : Nat) (byte : UInt8) : CharArray size :=
  ⟨array.bytes.set index byte, List.length_set.trans array.length⟩

def terminated (array : CharArray size) : Bool := array.bytes.contains 0

def read (array : CharArray size) : Option CText :=
  if array.terminated then some (array.bytes.takeWhile (· ≠ 0)) else none

/-- `array[0] != 0` -/
def filled (array : CharArray size) : Bool := array.bytes.headD 0 ≠ 0

theorem takeWhile_text (text rest : CText) (plain : 0 ∉ text) :
    (text ++ 0 :: rest).takeWhile (fun byte => decide (byte ≠ 0)) = text := by
  induction text with
  | nil => rfl
  | cons byte more ih =>
      have first : byte ≠ 0 := fun zero => plain (zero ▸ List.mem_cons_self)
      rw [List.cons_append, List.takeWhile_cons, if_pos (decide_eq_true first),
        ih fun member => plain (List.mem_cons_of_mem byte member)]

theorem zeros_terminated (positive : 0 < size) : (zeros size).terminated = true := by
  simpa [zeros, terminated] using Nat.ne_of_gt positive

theorem zeros_filled : (zeros size).filled = false := by
  cases size <;> rfl

variable (text : CText) (plain : 0 ∉ text)

include plain

theorem strncpy_terminated : (strncpy size text).terminated = decide (text.length < size) := by
  by_cases room : text.length < size
  · simp [terminated, strncpy, room]
    omega
  · have cut : 0 ∉ text.take size := fun member => plain (List.mem_of_mem_take member)
    simp [terminated, strncpy, room, cut, show size - text.length = 0 by omega]

theorem strncpy_read :
    (strncpy size text).read = if text.length < size then some text else none := by
  rw [read, strncpy_terminated text plain]
  by_cases room : text.length < size
  · obtain ⟨rest, fill⟩ : ∃ rest, size - text.length = rest + 1 :=
      ⟨size - text.length - 1, by omega⟩
    have bytes : (strncpy size text).bytes = text ++ 0 :: List.replicate rest 0 := by
      rw [← List.replicate_succ, ← fill]
      exact congrArg (· ++ _) (List.take_of_length_le (Nat.le_of_lt room))
    rw [if_pos (decide_eq_true room), if_pos room, bytes, takeWhile_text text _ plain]
  · simp [room]

theorem strncpy_filled (positive : 0 < size) :
    (strncpy size text).filled = decide (text ≠ []) := by
  cases text with
  | nil =>
      obtain ⟨rest, rfl⟩ : ∃ rest, size = rest + 1 := ⟨size - 1, by omega⟩
      rfl
  | cons byte rest =>
      obtain ⟨more, rfl⟩ : ∃ more, size = more + 1 := ⟨size - 1, by omega⟩
      have first : byte ≠ 0 := fun zero => plain (zero ▸ List.mem_cons_self)
      simp [filled, strncpy, first]

/-- A copy whose last byte is overwritten with a terminator holds as much as fits before it. -/
theorem strncpy_capped (last : Nat) :
    ((strncpy (last + 1) text).set last 0).read = some (text.take last) := by
  have bytes : ∃ rest,
      ((strncpy (last + 1) text).set last 0).bytes = text.take last ++ 0 :: rest := by
    by_cases room : text.length ≤ last
    · obtain ⟨rest, fill⟩ : ∃ rest, last + 1 - text.length = rest + 1 :=
        ⟨last - text.length, by omega⟩
      have position : last = text.length + rest := by omega
      refine ⟨List.replicate rest 0, ?_⟩
      simp only [set, strncpy, fill, List.take_of_length_le (show text.length ≤ last + 1 by omega),
        List.take_of_length_le room]
      rw [position, List.set_append_right _ _ (by omega), Nat.add_sub_cancel_left,
        ← List.replicate_succ]
      congr 1
      apply List.ext_getElem?
      intro index
      simp only [List.getElem?_set, List.getElem?_replicate, List.length_replicate]
      split <;> split <;> simp_all
    · refine ⟨[], ?_⟩
      have none : last + 1 - text.length = 0 := by omega
      have take : text.take (last + 1) = text.take last ++ [text[last]] := by
        rw [List.take_add_one, List.getElem?_eq_getElem (by omega), Option.toList_some]
      simp only [set, strncpy, none, List.replicate_zero, List.append_nil, take]
      rw [List.set_append_right _ _ (List.length_take_le last text)]
      simp [List.length_take, show min last text.length = last by omega]
  obtain ⟨rest, same⟩ := bytes
  have cut : 0 ∉ text.take last := fun member => plain (List.mem_of_mem_take member)
  rw [read, terminated, same, if_pos (by simp), takeWhile_text _ rest cut]

end CharArray

end Ptnet
