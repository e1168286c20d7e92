import Mathlib

/-!
A `String` of Kotlin: UTF-16 code units, surrogates included.
-/

namespace Ptnet.KotlinText

/-- `Char` -/
abbrev CodeUnit := UInt16

abbrev Text := List CodeUnit

def unit (char : Char) : CodeUnit := .ofNat char.toNat

/-- `first..last` contains the code unit. -/
def within (first last : Char) (element : CodeUnit) : Bool :=
  decide (first.toNat ≤ element.toNat) && decide (element.toNat ≤ last.toNat)

/-- `uppercase`, as far as ASCII goes. -/
def uppercase (element : CodeUnit) : CodeUnit :=
  if within 'a' 'z' element then .ofNat (element.toNat - 32) else element

def zeros : List Nat :=
  [0x0030, 0x0660, 0x06f0, 0x07c0, 0x0966, 0x09e6, 0x0a66, 0x0ae6, 0x0b66, 0x0be6, 0x0c66, 0x0ce6,
    0x0d66, 0x0de6, 0x0e50, 0x0ed0, 0x0f20, 0x1040, 0x1090, 0x17e0, 0x1810, 0x1946, 0x19d0, 0x1a80,
    0x1a90, 0x1b50, 0x1bb0, 0x1c40, 0x1c50, 0xa620, 0xa8d0, 0xa900, 0xa9d0, 0xa9f0, 0xaa50, 0xabf0,
    0xff10]

/-- What `Character.digit` compares with the radix: a decimal digit, or a letter, also a fullwidth
    one. -/
def digitValue (element : CodeUnit) : Option Nat :=
  let code := element.toNat
  match zeros.find? fun first => decide (first ≤ code) && decide (code < first + 10) with
  | some first => some (code - first)
  | none =>
      if within 'A' 'Z' element then some (code - 'A'.toNat + 10)
      else if within 'a' 'z' element then some (code - 'a'.toNat + 10)
      else if 0xff21 ≤ code ∧ code ≤ 0xff3a then some (code - 0xff21 + 10)
      else if 0xff41 ≤ code ∧ code ≤ 0xff5a then some (code - 0xff41 + 10)
      else none

def digitToIntOrNull (element : CodeUnit) (radix : Nat) : Option Nat :=
  (digitValue element).filter fun value => decide (value < radix)

def indexOf (s : Text) (element : CodeUnit) (start : Nat) : Option Nat :=
  ((s.drop start).idxOf? element).map (start + ·)

def substring (s : Text) (start stop : Nat) : Text := (s.drop start).take (stop - start)

theorem within_iff (first last : Char) (element : CodeUnit) :
    within first last element = true ↔
      first.toNat ≤ element.toNat ∧ element.toNat ≤ last.toNat := by
  rw [within, Bool.and_eq_true, decide_eq_true_eq, decide_eq_true_eq]

theorem digit_lt (element : CodeUnit) (radix value : Nat)
    (read : digitToIntOrNull element radix = some value) : value < radix := by
  have tested := (Option.filter_eq_some_iff.mp read).2
  exact of_decide_eq_true tested

section Substrings

variable (before part after : Text) (element : CodeUnit)

variable {part} in
theorem indexOf_eq (absent : element ∉ part) :
    indexOf (before ++ part ++ element :: after) element before.length =
      some (before.length + part.length) := by
  have found : (part ++ element :: after).idxOf? element = some part.length := by
    induction part with
    | nil => simp [List.idxOf?_cons]
    | cons first rest ih =>
        have later : element ∉ rest := fun member => absent (.tail _ member)
        have different : (first == element) = false :=
          beq_false_of_ne fun same => absent (same ▸ .head _)
        rw [List.cons_append, List.idxOf?_cons, different, ih later]
        rfl
  rw [indexOf, List.append_assoc, List.drop_left, found]
  rfl

theorem substring_eq : substring (before ++ part ++ after) before.length
    (before.length + part.length) = part := by
  rw [substring, List.append_assoc, List.drop_left, Nat.add_sub_cancel_left, List.take_left]

end Substrings

end Ptnet.KotlinText
