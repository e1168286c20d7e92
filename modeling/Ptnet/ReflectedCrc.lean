import Mathlib

/-!
A cyclic redundancy check with reflected bits, over a register of any width and for any
polynomial: one bit at a time, low bit first. The shifts of a register are linear in exclusive or,
so that a check which takes several bits at once is a sum of tables.
-/

namespace Ptnet.ReflectedCrc

variable {w : Nat}

def shiftBit (polynomial register : BitVec w) : BitVec w :=
  (register >>> 1) ^^^ if register.getLsbD 0 then polynomial else 0

def shiftBits (polynomial : BitVec w) (count : Nat) : BitVec w → BitVec w :=
  (shiftBit polynomial)^[count]

def absorb (polynomial register : BitVec w) (byte : UInt8) : BitVec w :=
  shiftBits polynomial 8 (register ^^^ byte.toBitVec.setWidth w)

def absorbAll (polynomial register : BitVec w) (data : List UInt8) : BitVec w :=
  data.foldl (absorb polynomial) register

/-- The check with initial and final complement. -/
def checksum (polynomial : BitVec w) (data : List UInt8) : BitVec w :=
  ~~~absorbAll polynomial (~~~0) data

section Linearity

variable (polynomial : BitVec w)

theorem shiftBit_xor (first last : BitVec w) :
    shiftBit polynomial (first ^^^ last) =
      shiftBit polynomial first ^^^ shiftBit polynomial last := by
  have taps : (if (first ^^^ last).getLsbD 0 then polynomial else 0) =
      (if first.getLsbD 0 then polynomial else 0) ^^^ if last.getLsbD 0 then polynomial else 0 := by
    cases one : first.getLsbD 0 <;> cases two : last.getLsbD 0 <;> simp [one, two]
  simp only [shiftBit, taps, BitVec.ushiftRight_xor_distrib]
  ac_rfl

theorem shiftBits_xor (count : Nat) (first last : BitVec w) :
    shiftBits polynomial count (first ^^^ last) =
      shiftBits polynomial count first ^^^ shiftBits polynomial count last := by
  induction count generalizing first last with
  | zero => rfl
  | succ count ih =>
      simp only [shiftBits, Function.iterate_succ_apply] at ih ⊢
      rw [shiftBit_xor, ih]

theorem shiftBits_add (first last : Nat) (register : BitVec w) :
    shiftBits polynomial (first + last) register =
      shiftBits polynomial first (shiftBits polynomial last register) :=
  Function.iterate_add_apply _ _ _ _

theorem shiftBits_zero (register : BitVec w) : shiftBits polynomial 0 register = register := rfl

theorem shiftBits_one (register : BitVec w) :
    shiftBits polynomial 1 register = shiftBit polynomial register := rfl

theorem shiftBit_double (register : BitVec w) (small : register.toNat * 2 < 2 ^ w) :
    shiftBit polynomial (register <<< 1) = register := by
  have even : (register <<< 1).getLsbD 0 = false := by simp
  have down : (register <<< 1) >>> 1 = register := by
    apply BitVec.eq_of_toNat_eq
    rw [BitVec.toNat_ushiftRight, BitVec.toNat_shiftLeft, Nat.shiftLeft_eq, Nat.pow_one,
      Nat.mod_eq_of_lt small, Nat.shiftRight_eq_div_pow, Nat.pow_one]
    omega
  simp only [shiftBit, even, down, Bool.false_eq_true, if_false]
  exact BitVec.xor_zero

theorem shiftBits_shiftLeft (count : Nat) (register : BitVec w)
    (small : register.toNat * 2 ^ count < 2 ^ w) :
    shiftBits polynomial count (register <<< count) = register := by
  induction count with
  | zero => simp [shiftBits]
  | succ count ih =>
      rw [Nat.pow_succ, ← Nat.mul_assoc] at small
      have lower : register.toNat * 2 ^ count < 2 ^ w := by omega
      have value : (register <<< count).toNat = register.toNat * 2 ^ count := by
        rw [BitVec.toNat_shiftLeft, Nat.shiftLeft_eq, Nat.mod_eq_of_lt lower]
      rw [shiftBits_add, BitVec.shiftLeft_add, shiftBits_one,
        shiftBit_double polynomial (register <<< count) (value ▸ small)]
      exact ih lower

end Linearity

section Slices

variable (polynomial : BitVec w)

theorem split_low (register : BitVec w) (count : Nat) :
    register = (register >>> count) <<< count ^^^ (register.setWidth count).setWidth w := by
  apply BitVec.eq_of_getLsbD_eq
  intro index bounded
  simp only [BitVec.getLsbD_xor, BitVec.getLsbD_shiftLeft, BitVec.getLsbD_ushiftRight,
    BitVec.getLsbD_setWidth, bounded, decide_true, Bool.true_and]
  by_cases low : index < count
  · simp [low]
  · simp [low, Nat.add_sub_cancel' (Nat.le_of_not_lt low)]

/-- The high bits of a register move down, the low ones act through a table. -/
theorem shiftBits_split (count : Nat) (register : BitVec w) :
    shiftBits polynomial count register =
      (register >>> count) ^^^
        shiftBits polynomial count ((register.setWidth count).setWidth w) := by
  have small : (register >>> count).toNat * 2 ^ count < 2 ^ w := by
    rw [BitVec.toNat_ushiftRight, Nat.shiftRight_eq_div_pow]
    exact Nat.lt_of_le_of_lt (Nat.div_mul_le_self _ _) register.isLt
  conv => lhs; rw [split_low register count]
  rw [shiftBits_xor, shiftBits_shiftLeft polynomial count _ small]

theorem shiftBits_slice (rest count : Nat) (register : BitVec w) :
    shiftBits polynomial (rest + count) register =
      shiftBits polynomial rest (register >>> count) ^^^
        shiftBits polynomial (rest + count) ((register.setWidth count).setWidth w) := by
  rw [shiftBits_add, shiftBits_split polynomial count, shiftBits_xor, ← shiftBits_add]

/-- What is added after some shifts can be added before them, further up. -/
theorem shiftBits_later (count : Nat) (register added : BitVec w)
    (small : added.toNat * 2 ^ count < 2 ^ w) :
    shiftBits polynomial count register ^^^ added =
      shiftBits polynomial count (register ^^^ added <<< count) := by
  rw [shiftBits_xor, shiftBits_shiftLeft polynomial count added small]

theorem absorbAll_append (register : BitVec w) (first last : List UInt8) :
    absorbAll polynomial register (first ++ last) =
      absorbAll polynomial (absorbAll polynomial register first) last :=
  List.foldl_append

end Slices

end Ptnet.ReflectedCrc
