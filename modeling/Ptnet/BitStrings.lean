import Mathlib

/-!
Strings of bits, most significant first, the numbers they stand for, and the regrouping of a
string into groups of five as RFC 4648 does it: the last group is filled up with zeros.
-/

namespace Ptnet.BitStrings

def number (bits : List Bool) : Nat := bits.foldl (fun value bit => value * 2 + bit.toNat) 0

/-- The last `width` bits of a number. -/
def bits : Nat → Nat → List Bool
  | 0, _ => []
  | width + 1, value => bits width (value / 2) ++ [value % 2 == 1]

def numeral (base : Nat) (digits : List Nat) : Nat :=
  digits.foldl (fun value digit => value * base + digit) 0

theorem numeral_concat (base : Nat) (digits : List Nat) (digit : Nat) :
    numeral base (digits ++ [digit]) = numeral base digits * base + digit := by
  simp [numeral]

theorem numeral_append (base : Nat) (high low : List Nat) :
    numeral base (high ++ low) = numeral base high * base ^ low.length + numeral base low := by
  induction low using List.reverseRecOn with
  | nil => simp [numeral]
  | append_singleton before last ih =>
      rw [← List.append_assoc, numeral_concat, ih, numeral_concat, List.length_append,
        List.length_singleton, pow_succ]
      ring

theorem number_concat (high : List Bool) (bit : Bool) :
    number (high ++ [bit]) = number high * 2 + bit.toNat := by
  simp [number]

theorem number_append (high low : List Bool) :
    number (high ++ low) = number high * 2 ^ low.length + number low := by
  induction low using List.reverseRecOn with
  | nil => simp [number]
  | append_singleton before last ih =>
      rw [← List.append_assoc, number_concat, ih, number_concat, List.length_append,
        List.length_singleton, pow_succ]
      ring

theorem number_lt (string : List Bool) : number string < 2 ^ string.length := by
  induction string using List.reverseRecOn with
  | nil => simp [number]
  | append_singleton before last ih =>
      have bit : last.toNat < 2 := Bool.toNat_lt last
      rw [number_concat, List.length_append, List.length_singleton, pow_succ]
      omega

theorem bits_length (width value : Nat) : (bits width value).length = width := by
  induction width generalizing value with
  | zero => rfl
  | succ width ih => rw [bits, List.length_append, ih, List.length_singleton]

theorem number_bits (width value : Nat) (fits : value < 2 ^ width) :
    number (bits width value) = value := by
  induction width generalizing value with
  | zero => exact (Nat.lt_one_iff.mp fits).symm
  | succ width ih =>
      have half : value / 2 < 2 ^ width := by
        rw [pow_succ] at fits
        omega
      rw [bits, number_concat, ih (value / 2) half]
      rcases Nat.mod_two_eq_zero_or_one value with even | odd
      · rw [even]
        show value / 2 * 2 + 0 = value
        omega
      · rw [odd]
        show value / 2 * 2 + 1 = value
        omega

theorem number_zeros (count : Nat) : number (List.replicate count false) = 0 := by
  induction count with
  | zero => rfl
  | succ count ih => rw [List.replicate_succ', number_concat, ih]; rfl

/-- Groups of five bits; zeros are added on the right for the last one. -/
def quintets : List Bool → List (List Bool)
  | a :: b :: c :: d :: e :: rest => [a, b, c, d, e] :: quintets rest
  | [] => []
  | short => [short ++ List.replicate (5 - short.length) false]

theorem quintets_short (string : List Bool) (some : string ≠ []) (short : string.length < 5) :
    quintets string = [string ++ List.replicate (5 - string.length) false] := by
  match string, some, short with
  | [_], _, _ => rfl
  | [_, _], _, _ => rfl
  | [_, _, _], _, _ => rfl
  | [_, _, _, _], _, _ => rfl

/-- Induction along the groups: none, a short one, or a full one and the rest. -/
theorem quintets_induction {motive : List Bool → Prop} (none : motive [])
    (last : ∀ string, string ≠ [] → string.length < 5 → motive string)
    (full : ∀ group rest, group.length = 5 → motive rest → motive (group ++ rest))
    (string : List Bool) : motive string := by
  induction string using quintets.induct with
  | case1 a b c d e rest ih => exact full [a, b, c, d, e] rest rfl ih
  | case2 => exact none
  | case3 short nonempty few =>
      refine last short few ?_
      match short, nonempty with
      | [], _ => decide
      | [_], _ => simp
      | [_, _], _ => simp
      | [_, _, _], _ => simp
      | [_, _, _, _], _ => simp
      | a :: b :: c :: d :: e :: rest, notFull => exact absurd rfl (notFull a b c d e rest)

theorem quintets_append (group rest : List Bool) (full : group.length = 5) :
    quintets (group ++ rest) = group :: quintets rest := by
  match group, full with
  | [_, _, _, _, _], _ => rfl

theorem quintets_length (string : List Bool) :
    (quintets string).length = (string.length + 4) / 5 := by
  induction string using quintets_induction with
  | none => rfl
  | last string some short =>
      have positive := List.length_pos_iff.mpr some
      rw [quintets_short string some short, List.length_singleton]
      omega
  | full group rest five ih =>
      rw [quintets_append group rest five, List.length_cons, List.length_append, ih]
      omega

theorem quintets_small (string : List Bool) : ∀ group ∈ quintets string, number group < 32 := by
  induction string using quintets_induction with
  | none => simp [quintets]
  | last string some short =>
      intro group member
      rw [quintets_short string some short, List.mem_singleton] at member
      have bound := number_lt group
      have five : group.length = 5 := by
        rw [member, List.length_append, List.length_replicate]
        omega
      rwa [five] at bound
  | full group rest five ih =>
      intro other member
      rw [quintets_append group rest five, List.mem_cons] at member
      rcases member with rfl | later
      · have bound := number_lt other
        rwa [five] at bound
      · exact ih other later

/-- The groups are the digits, in base 32, of the string with the zeros behind it. -/
theorem quintets_numeral (string : List Bool) :
    numeral 32 ((quintets string).map number) =
      number string * 2 ^ (5 * (quintets string).length - string.length) := by
  induction string using quintets_induction with
  | none => rfl
  | last string some short =>
      rw [quintets_short string some short, List.map_singleton, List.length_singleton]
      show 0 * 32 + number (string ++ _) = _
      rw [number_append, number_zeros, List.length_replicate]
      ring
  | full group rest five ih =>
      have counted := quintets_length rest
      have one : numeral 32 [number group] = number group := by simp [numeral]
      rw [quintets_append group rest five, List.map_cons, List.length_cons, List.length_append, five,
        ← List.singleton_append, numeral_append, one, ih, List.length_map, number_append,
        show (32 : Nat) = 2 ^ 5 by rfl, ← pow_mul, Nat.add_mul,
        show 5 * ((quintets rest).length + 1) - (5 + rest.length) =
          5 * (quintets rest).length - rest.length by omega, Nat.mul_assoc, ← pow_add,
        show rest.length + (5 * (quintets rest).length - rest.length) =
          5 * (quintets rest).length by omega]

end Ptnet.BitStrings
