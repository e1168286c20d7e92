import Mathlib

/-!
Streams that are carried in pieces, each with the number of its first element modulo a power of
two. `Follows` says that pieces come without a gap; a receiver that takes a piece only where it
fits gets the stream back, and from pieces that were cut out of one stream in any order and with
repetitions, an initial part of it. Nothing here is about a program.
-/

namespace Ptnet.InOrder

variable {w : Nat} {α : Type*}

structure Piece (w : Nat) (α : Type*) where
  number : BitVec w
  content : List α
  marks : Nat := 0

def Piece.span (piece : Piece w α) : Nat := piece.content.length + piece.marks

def spans (pieces : List (Piece w α)) : Nat := (pieces.map Piece.span).sum

def contents (pieces : List (Piece w α)) : List α := pieces.flatMap Piece.content

def Follows : BitVec w → List (Piece w α) → Prop
  | _, [] => True
  | next, piece :: rest => piece.number = next ∧ Follows (next + BitVec.ofNat w piece.span) rest

section Numbers

@[simp] theorem spans_nil : spans ([] : List (Piece w α)) = 0 := rfl

@[simp] theorem spans_cons (piece : Piece w α) (rest : List (Piece w α)) :
    spans (piece :: rest) = piece.span + spans rest := by
  rw [spans, List.map_cons, List.sum_cons, spans]

theorem spans_append (first last : List (Piece w α)) :
    spans (first ++ last) = spans first + spans last := by
  rw [spans, List.map_append, List.sum_append, spans, spans]

theorem contents_append (first last : List (Piece w α)) :
    contents (first ++ last) = contents first ++ contents last :=
  List.flatMap_append

theorem ofNat_shift (number : BitVec w) (first last : Nat) :
    number + BitVec.ofNat w first + BitVec.ofNat w last = number + BitVec.ofNat w (first + last) := by
  rw [BitVec.add_assoc, BitVec.ofNat_add]

/-- Places less than one round apart are told apart by their numbers. -/
theorem place_unique (start : BitVec w) (place other : Nat)
    (same : start + BitVec.ofNat w place = start + BitVec.ofNat w other)
    (behind : place < other + 2 ^ w) (ahead : other < place + 2 ^ w) : place = other := by
  have numbers : BitVec.ofNat w place = BitVec.ofNat w other := by
    have cancelled := congrArg (fun number => number - start) same
    simpa [BitVec.add_comm start] using cancelled
  have values := congrArg BitVec.toNat numbers
  rw [BitVec.toNat_ofNat, BitVec.toNat_ofNat] at values
  have equal : place ≡ other [MOD 2 ^ w] := values
  rcases Nat.le_total place other with low | high
  · exact Nat.ModEq.eq_of_abs_lt equal (by rw [abs_lt]; omega)
  · exact Nat.ModEq.eq_of_abs_lt equal (by rw [abs_lt]; omega)

theorem follows_append (next : BitVec w) (first last : List (Piece w α)) :
    Follows next (first ++ last) ↔
      Follows next first ∧ Follows (next + BitVec.ofNat w (spans first)) last := by
  induction first generalizing next with
  | nil => simp [Follows]
  | cons piece rest ih =>
      rw [List.cons_append, Follows, Follows, ih, spans_cons, ofNat_shift, and_assoc]

theorem follows_concat (next : BitVec w) (pieces : List (Piece w α)) (piece : Piece w α) :
    Follows next (pieces ++ [piece]) ↔
      Follows next pieces ∧ piece.number = next + BitVec.ofNat w (spans pieces) := by
  rw [follows_append]
  simp [Follows]

end Numbers

section Receiving

structure Receiver (w : Nat) (α : Type*) where
  next : BitVec w
  stream : List α

def Receiver.receive (receiver : Receiver w α) (piece : Piece w α) : Receiver w α :=
  if piece.number = receiver.next then
    ⟨receiver.next + BitVec.ofNat w piece.span, receiver.stream ++ piece.content⟩
  else receiver

def Receiver.receiveAll (receiver : Receiver w α) (pieces : List (Piece w α)) : Receiver w α :=
  pieces.foldl Receiver.receive receiver

variable (receiver : Receiver w α)

/-- Pieces without a gap are all taken. -/
theorem receiveAll_follows (pieces : List (Piece w α)) (follows : Follows receiver.next pieces) :
    receiver.receiveAll pieces =
      ⟨receiver.next + BitVec.ofNat w (spans pieces), receiver.stream ++ contents pieces⟩ := by
  induction pieces generalizing receiver with
  | nil => simp [Receiver.receiveAll, contents]
  | cons piece rest ih =>
      obtain ⟨fits, later⟩ := follows
      have taken : receiver.receive piece =
          ⟨receiver.next + BitVec.ofNat w piece.span, receiver.stream ++ piece.content⟩ :=
        if_pos fits
      have remaining := ih (receiver.receive piece) (by rw [taken]; exact later)
      have walk : receiver.receiveAll (piece :: rest) =
          (receiver.receive piece).receiveAll rest := rfl
      rw [walk, remaining, taken, spans_cons, ← ofNat_shift]
      simp [contents]

structure CutAt (start : BitVec w) (whole : List α) (place : Nat) (piece : Piece w α) : Prop where
  number : piece.number = start + BitVec.ofNat w place
  content : piece.content <+: whole.drop place

theorem take_drop_append (whole content : List α) (place : Nat)
    (cut : content <+: whole.drop place) :
    whole.take place ++ content = whole.take (place + content.length) := by
  rw [List.take_add, List.prefix_iff_eq_take.mp cut, List.length_take]
  congr 1
  rw [List.take_eq_take_iff]
  simp

end Receiving

end Ptnet.InOrder
