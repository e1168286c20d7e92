import Mathlib.Data.List.Basic

/-!
A stream that arrives in pieces, and the cut of it at a position: a piece across the
position is divided.
-/

namespace Ptnet.Pieces

variable {Item : Type}

/-- The pieces of the first `size` items and those of the rest. -/
def cutAt : List (List Item) → Nat → List (List Item) × List (List Item)
  | [], _ => ([], [])
  | piece :: rest, size =>
      if size = 0 then ([], piece :: rest)
      else if piece.length ≤ size then
        (piece :: (cutAt rest (size - piece.length)).1, (cutAt rest (size - piece.length)).2)
      else ([piece.take size], piece.drop size :: rest)

/-- What is left of the piece in which the first `size` items end. -/
def leftAt : List (List Item) → Nat → List Item
  | [], _ => []
  | piece :: rest, size =>
      if piece.length < size then leftAt rest (size - piece.length) else piece.drop size

/-- Of two ways to divide a stream, the first part of one goes on as that of the other. -/
theorem prefix_shared {first second third fourth : List Item}
    (same : first ++ second = third ++ fourth) (short : first.length ≤ third.length) :
    ∃ more, third = first ++ more := by
  obtain ⟨more, joined⟩ := List.prefix_of_prefix_length_le ⟨second, same⟩
    (List.prefix_append third fourth) short
  exact ⟨more, joined.symm⟩

def resume (left : List Item) (rest : List (List Item)) : List (List Item) :=
  if left = [] then rest else left :: rest

@[simp] theorem resume_nil (rest : List (List Item)) : resume [] rest = rest := rfl

theorem resume_some (left : List Item) (rest : List (List Item)) (some : left ≠ []) :
    resume left rest = left :: rest := if_neg some

@[simp] theorem resume_flatten (left : List Item) (rest : List (List Item)) :
    (resume left rest).flatten = left ++ rest.flatten := by
  unfold resume
  split <;> simp_all

@[simp] theorem cutAt_zero (pieces : List (List Item)) : cutAt pieces 0 = ([], pieces) := by
  cases pieces <;> simp [cutAt]

theorem cutAt_flatten (pieces : List (List Item)) (size : Nat) :
    (cutAt pieces size).1.flatten = pieces.flatten.take size ∧
      (cutAt pieces size).2.flatten = pieces.flatten.drop size := by
  induction pieces generalizing size with
  | nil => simp [cutAt]
  | cons piece rest ih =>
      obtain ⟨first, last⟩ := ih (size - piece.length)
      unfold cutAt
      by_cases none : size = 0
      · simp [none]
      · rw [if_neg none]
        split
        · next whole =>
            simp [first, last, List.take_append, List.drop_append, List.take_of_length_le whole,
              List.drop_of_length_le whole]
        · next divided =>
            have short : size - piece.length = 0 := by omega
            simp [List.take_append, List.drop_append, short]

theorem cutAt_within (left : List Item) (rest : List (List Item)) (size : Nat)
    (within : size ≤ left.length) :
    (cutAt (resume left rest) size).2 = resume (left.drop size) rest := by
  by_cases none : size = 0
  · simp [none]
  · have some : left ≠ [] := by
      rintro rfl
      simp at within
      omega
    rw [resume_some left rest some, cutAt, if_neg none]
    split
    · next whole =>
        obtain rfl : size = left.length := by omega
        simp
    · next divided =>
        rw [resume_some]
        intro empty
        simp at empty
        omega

theorem cutAt_beyond (left : List Item) (rest : List (List Item)) (size : Nat)
    (beyond : left.length < size) :
    (cutAt (resume left rest) size).2 = (cutAt rest (size - left.length)).2 := by
  by_cases none : left = []
  · simp [none]
  · rw [resume_some left rest none, cutAt, if_neg (by omega), if_pos (by omega)]

theorem cutAt_past (left : List Item) (rest : List (List Item)) (size : Nat)
    (past : left.length ≤ size) :
    (cutAt (resume left rest) size).2 = (cutAt rest (size - left.length)).2 := by
  rcases Nat.lt_or_eq_of_le past with beyond | rfl
  · exact cutAt_beyond left rest size beyond
  · rw [cutAt_within left rest _ (Nat.le_refl _)]
    simp

theorem cutAt_single (left : List Item) (rest : List (List Item)) (size : Nat) (some : 0 < size)
    (within : size ≤ left.length) : (cutAt (resume left rest) size).1 = [left.take size] := by
  have filled : left ≠ [] := by
    rintro rfl
    simp at within
    omega
  rw [resume_some left rest filled, cutAt, if_neg (by omega)]
  split
  · next whole =>
      obtain rfl : size = left.length := by omega
      simp
  · rfl

/-- Of a cut beyond the first piece that piece is the first part's first. -/
theorem cutAt_cons (piece : List Item) (rest : List (List Item)) (size : Nat)
    (beyond : piece.length < size) :
    (cutAt (piece :: rest) size).1 = piece :: (cutAt rest (size - piece.length)).1 := by
  rw [cutAt, if_neg (by omega), if_pos (by omega)]

/-- When the first part of a cut is one piece, the cut is inside the first piece. -/
theorem cutAt_one (piece : List Item) (rest : List (List Item)) (size : Nat)
    (one : (cutAt (piece :: rest) size).1.length = 1)
    (enough : size ≤ piece.length + rest.flatten.length) : size ≤ piece.length := by
  by_contra beyond
  have lengths := congrArg List.length (cutAt_flatten rest (size - piece.length)).1
  have short : (cutAt rest (size - piece.length)).1 = [] := by
    rw [cutAt_cons piece rest size (by omega)] at one
    simpa using one
  rw [short, List.flatten_nil, List.length_nil, List.length_take] at lengths
  omega

end Ptnet.Pieces
