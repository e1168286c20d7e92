import Mathlib

/-!
Numbers in base 256, most significant byte first, and the leading bits that they share. Nothing
here is about a program.
-/

namespace Ptnet.BigEndian

def value (bytes : List (BitVec 8)) : Nat :=
  bytes.foldl (fun number byte => number * 256 + byte.toNat) 0

@[simp] theorem value_nil : value [] = 0 := rfl

theorem value_concat (bytes : List (BitVec 8)) (byte : BitVec 8) :
    value (bytes ++ [byte]) = value bytes * 256 + byte.toNat := by
  simp [value]

theorem value_append (high low : List (BitVec 8)) :
    value (high ++ low) = value high * 256 ^ low.length + value low := by
  induction low using List.reverseRecOn with
  | nil => simp
  | append_singleton before last ih =>
      rw [← List.append_assoc, value_concat, ih, value_concat, List.length_append,
        List.length_singleton, pow_succ]
      ring

theorem value_cons (byte : BitVec 8) (bytes : List (BitVec 8)) :
    value (byte :: bytes) = byte.toNat * 256 ^ bytes.length + value bytes := by
  have split := value_append [byte] bytes
  rwa [List.singleton_append, show value [byte] = byte.toNat by simp [value]] at split

theorem value_lt (bytes : List (BitVec 8)) : value bytes < 256 ^ bytes.length := by
  induction bytes using List.reverseRecOn with
  | nil => simp
  | append_singleton before last ih =>
      have byte := last.isLt
      rw [value_concat, List.length_append, List.length_singleton, pow_succ]
      omega

theorem value_ones (count : Nat) : value (List.replicate count 255#8) + 1 = 256 ^ count := by
  induction count with
  | zero => rfl
  | succ count ih =>
      rw [List.replicate_succ', value_concat, pow_succ, ← ih]
      show _ * 256 + 255 + 1 = _
      ring

theorem value_injective (bytes others : List (BitVec 8)) (long : bytes.length = others.length)
    (same : value bytes = value others) : bytes = others := by
  induction bytes using List.reverseRecOn generalizing others with
  | nil => exact (List.length_eq_zero_iff.mp long.symm).symm
  | append_singleton before last ih =>
      cases others using List.reverseRecOn with
      | nil => simp at long
      | append_singleton earlier final =>
          rw [value_concat, value_concat] at same
          have lastByte := last.isLt
          have finalByte := final.isLt
          have heads : value before = value earlier := by omega
          have tails : last.toNat = final.toNat := by omega
          have shorter : before.length = earlier.length := by simpa using long
          rw [ih earlier shorter heads, BitVec.eq_of_toNat_eq tails]

section LeadingBits

/-- Numbers of `width` bits with the same first bits. -/
def Agree (width count x y : Nat) : Prop :=
  ∀ index < count, x.testBit (width - 1 - index) = y.testBit (width - 1 - index)

instance (width count x y : Nat) : Decidable (Agree width count x y) :=
  inferInstanceAs (Decidable (∀ index < count, _))

def cleared (low x : Nat) : Nat := x / 2 ^ low * 2 ^ low

theorem agree_iff (width count x y : Nat) (within : count ≤ width) (first : x < 2 ^ width)
    (second : y < 2 ^ width) :
    Agree width count x y ↔ x / 2 ^ (width - count) = y / 2 ^ (width - count) := by
  constructor
  · intro agree
    apply Nat.eq_of_testBit_eq
    intro index
    rw [Nat.testBit_div_two_pow, Nat.testBit_div_two_pow]
    by_cases inside : width - count + index < width
    · have here := agree (count - 1 - index) (by omega)
      rwa [show width - 1 - (count - 1 - index) = index + (width - count) by omega] at here
    · have long : 2 ^ width ≤ 2 ^ (index + (width - count)) :=
        Nat.pow_le_pow_right (by decide) (by omega)
      rw [Nat.testBit_lt_two_pow (Nat.lt_of_lt_of_le first long),
        Nat.testBit_lt_two_pow (Nat.lt_of_lt_of_le second long)]
  · intro same index early
    have bit := congrArg (fun number => number.testBit (count - 1 - index)) same
    simp only [Nat.testBit_div_two_pow] at bit
    rwa [show count - 1 - index + (width - count) = width - 1 - index by omega] at bit

theorem div_eq_iff_between (low x y : Nat) :
    x / 2 ^ low = y / 2 ^ low ↔ cleared low x ≤ y ∧ y ≤ cleared low x + (2 ^ low - 1) := by
  have unit : 0 < 2 ^ low := Nat.two_pow_pos low
  rw [eq_comm, Nat.div_eq_iff unit, cleared]
  omega

theorem ones_div (width count : Nat) :
    (2 ^ width - 1) / 2 ^ count = 2 ^ (width - count) - 1 := by
  apply Nat.eq_of_testBit_eq
  intro index
  rw [Nat.testBit_div_two_pow, Nat.testBit_two_pow_sub_one, Nat.testBit_two_pow_sub_one]
  apply decide_eq_decide.mpr
  omega

/-- The complement of a mask of low bits clears them, on the two's complement of any length. -/
theorem land_complement (low x : Nat) :
    Int.land x (Int.lnot (2 ^ low - 1 : Nat)) = (cleared low x : Nat) := by
  show ((Nat.ldiff x (2 ^ low - 1) : Nat) : Int) = _
  congr 1
  apply Nat.eq_of_testBit_eq
  intro index
  rw [Nat.testBit_ldiff, Nat.testBit_two_pow_sub_one, cleared, Nat.testBit_mul_two_pow,
    Nat.testBit_div_two_pow]
  by_cases below : index < low
  · simp [below]
  · have above := Nat.le_of_not_lt below
    simp [below, above, Nat.sub_add_cancel above]

theorem and_shifted_ones {width : Nat} (low : Nat) (number : BitVec width) :
    (number &&& (BitVec.allOnes width <<< low)).toNat = cleared low number.toNat := by
  apply Nat.eq_of_testBit_eq
  intro index
  rw [cleared, Nat.testBit_mul_two_pow, Nat.testBit_div_two_pow, BitVec.testBit_toNat,
    BitVec.getLsbD_and, BitVec.getLsbD_shiftLeft]
  by_cases below : index < low
  · simp [below]
  · have above := Nat.le_of_not_lt below
    rw [Nat.sub_add_cancel above, BitVec.testBit_toNat, BitVec.getLsbD_allOnes]
    by_cases inside : index < width
    · simp [below, above, inside, Nat.lt_of_le_of_lt (Nat.sub_le index low) inside]
    · simp [BitVec.getLsbD_of_ge number index (Nat.le_of_not_lt inside)]

end LeadingBits

end Ptnet.BigEndian
