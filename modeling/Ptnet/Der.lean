import Ptnet.BigEndian

/-!
The distinguished encoding of an integer and of a sequence of two integers: a tag, the length of
the contents, the contents. An integer has its two's complement, in no more octets than it needs.
-/

namespace Ptnet.Der

open BigEndian

abbrev Octets := List (BitVec 8)

/-- Two's complement, most significant octet first. -/
def signed (contents : Octets) : Int :=
  value contents - if (contents.headD 0).msb then 256 ^ contents.length else 0

/-- The first nine bits are not all the same. -/
def Minimal : Octets → Prop
  | [] => False
  | [_] => True
  | first :: second :: _ =>
      ¬(first = 0 ∧ second.msb = false) ∧ ¬(first = 255 ∧ second.msb = true)

/-- A length below 128 is its own octet; before a longer one stands the number of its octets. -/
def lengthOctets (length : Nat) : Octets :=
  if length < 128 then [.ofNat 8 length]
  else
    let octets := (Nat.digits 256 length).reverse.map (BitVec.ofNat 8)
    .ofNat 8 (128 + octets.length) :: octets

def tagged (tag : BitVec 8) (contents : Octets) : Octets :=
  tag :: lengthOctets contents.length ++ contents

def IsInteger (number : Int) (encoding : Octets) : Prop :=
  ∃ contents, Minimal contents ∧ signed contents = number ∧ encoding = tagged 0x02 contents

/-- `SEQUENCE { INTEGER, INTEGER }` -/
def IsPair (first second : Int) (encoding : Octets) : Prop :=
  ∃ left right, IsInteger first left ∧ IsInteger second right ∧
    encoding = tagged 0x30 (left ++ right)

section Contents

variable (first second : BitVec 8) (rest : Octets)

theorem signed_cons : signed (first :: rest) = first.toInt * 256 ^ rest.length + value rest := by
  have octet := BitVec.toInt_eq_msb_cond first
  unfold signed
  rw [List.headD_cons, value_cons, octet, List.length_cons]
  split
  · push_cast
    ring
  · push_cast
    ring

theorem signed_range : -128 * 256 ^ rest.length ≤ signed (first :: rest) ∧
    signed (first :: rest) < 128 * 256 ^ rest.length := by
  have least : -128 ≤ first.toInt := BitVec.le_toInt first
  have most : first.toInt ≤ 127 := Int.le_of_lt_add_one BitVec.toInt_lt
  have unit : (0 : Int) ≤ 256 ^ rest.length := by positivity
  have tail : (value rest : Int) < 256 ^ rest.length := by exact_mod_cast value_lt rest
  have lower := Int.mul_le_mul_of_nonneg_right least unit
  have upper := Int.mul_le_mul_of_nonneg_right most unit
  rw [signed_cons]
  constructor <;> linarith

theorem nine_bits : ¬(first = 0 ∧ second.msb = false) ∧ ¬(first = 255 ∧ second.msb = true) ↔
    first.toInt * 256 + second.toNat < -128 ∨ 128 ≤ first.toInt * 256 + second.toNat := by
  have zero : first = 0 ↔ first.toNat = 0 := BitVec.toNat_eq
  have ones : first = 255 ↔ first.toNat = 255 := BitVec.toNat_eq
  have octet := BitVec.toInt_eq_toNat_cond first
  have bound := first.isLt
  have other := second.isLt
  rw [zero, ones, octet, BitVec.msb_eq_decide, decide_eq_false_iff_not, decide_eq_true_iff]
  split <;> omega

theorem minimal_iff : Minimal (first :: second :: rest) ↔
    signed (first :: second :: rest) < -128 * 256 ^ rest.length ∨
      128 * 256 ^ rest.length ≤ signed (first :: second :: rest) := by
  have unit : (0 : Int) < 256 ^ rest.length := by positivity
  have tail : (value rest : Int) < 256 ^ rest.length := by exact_mod_cast value_lt rest
  obtain ⟨top, topIs⟩ : ∃ top, top = first.toInt * 256 + second.toNat := ⟨_, rfl⟩
  have whole : signed (first :: second :: rest) = top * 256 ^ rest.length + value rest := by
    rw [signed_cons, value_cons, List.length_cons, pow_succ, topIs]
    push_cast
    ring
  have nine : Minimal (first :: second :: rest) ↔ top < -128 ∨ 128 ≤ top := by
    rw [topIs]
    exact nine_bits first second
  rw [nine, whole]
  constructor
  · rintro (negative | positive)
    · have least := Int.mul_le_mul_of_nonneg_right (show top ≤ -129 by omega) unit.le
      exact .inl (by linarith)
    · have least := Int.mul_le_mul_of_nonneg_right positive unit.le
      exact .inr (by linarith)
  · intro far
    by_contra near
    have least := Int.mul_le_mul_of_nonneg_right (show -128 ≤ top by omega) unit.le
    have most := Int.mul_le_mul_of_nonneg_right (show top ≤ 127 by omega) unit.le
    rcases far with negative | positive <;> linarith

end Contents

section Unsigned

/-- A zero octet keeps a number with a high first bit positive. -/
def padded (bytes : Octets) : Octets := if (bytes.headD 0).msb then 0 :: bytes else bytes

theorem signed_padded (bytes : Octets) : signed (padded bytes) = value bytes := by
  unfold padded signed
  split
  next high =>
      have zero : (0 : BitVec 8).msb = false := rfl
      rw [List.headD_cons, zero, value_cons]
      simp
  next => exact Int.sub_zero _

/-- The contents are minimal where the first nine bits of the number are not all zero. -/
theorem minimal_padded (first second : BitVec 8) (rest : Octets) :
    Minimal (padded (first :: second :: rest)) ↔
      128 * 256 ^ rest.length ≤ value (first :: second :: rest) := by
  have number := signed_padded (first :: second :: rest)
  have unit : (0 : Int) < 256 ^ rest.length := by positivity
  have high := BitVec.msb_eq_decide first
  unfold padded at number ⊢
  rw [List.headD_cons] at number ⊢
  by_cases negative : first.msb = true
  · have large : 128 ≤ first.toNat := by simpa [high] using negative
    have least : 128 * 256 ^ (second :: rest).length ≤ value (first :: second :: rest) := by
      rw [value_cons]
      exact Nat.le_add_right_of_le (Nat.mul_le_mul_right _ large)
    have longer : 256 ^ rest.length ≤ 256 ^ (second :: rest).length :=
      Nat.pow_le_pow_right (by decide) (Nat.le_succ _)
    rw [if_pos negative] at number ⊢
    rw [minimal_iff, number]
    refine iff_of_true (.inr (by exact_mod_cast least)) (by omega)
  · rw [if_neg negative] at number ⊢
    rw [minimal_iff, number]
    constructor
    · rintro (below | large)
      · have positive := Int.natCast_nonneg (value (first :: second :: rest))
        linarith
      · exact_mod_cast large
    · exact fun large => .inr (by exact_mod_cast large)

end Unsigned

section Unique

theorem minimal_length_le (contents others : Octets) (minimal : Minimal contents)
    (nonempty : others ≠ []) (same : signed contents = signed others) :
    contents.length ≤ others.length := by
  by_contra shorter
  obtain ⟨top, low, rfl⟩ := List.exists_cons_of_ne_nil nonempty
  match contents, minimal with
  | [_], _ => simp at shorter
  | first :: second :: rest, minimal =>
      have range := signed_range top low
      have outside := (minimal_iff first second rest).mp minimal
      have longer : (256 : Int) ^ low.length ≤ 256 ^ rest.length := by
        have lengths : low.length ≤ rest.length := by
          simp only [List.length_cons] at shorter
          omega
        exact_mod_cast Nat.pow_le_pow_right (by decide) lengths
      rw [same] at outside
      rcases outside with below | above <;> linarith [range.1, range.2]

theorem minimal_unique (contents others : Octets) (minimal : Minimal contents)
    (least : Minimal others) (same : signed contents = signed others) : contents = others := by
  have nonempty : ∀ octets, Minimal octets → octets ≠ [] := by
    rintro _ wrong rfl
    exact wrong
  have long : contents.length = others.length :=
    Nat.le_antisymm (minimal_length_le contents others minimal (nonempty others least) same)
      (minimal_length_le others contents least (nonempty contents minimal) same.symm)
  apply value_injective contents others long
  have bound := value_lt contents
  have other := value_lt others
  have power : ((256 ^ others.length : Nat) : Int) = 256 ^ others.length := by push_cast; rfl
  unfold signed at same
  rw [long, ← power] at same
  rw [long] at bound
  split at same <;> split at same <;> omega

end Unique

section Parsing

theorem tagged_short (tag : BitVec 8) (contents : Octets) (short : contents.length < 128) :
    tagged tag contents = tag :: .ofNat 8 contents.length :: contents := by
  rw [tagged, lengthOctets, if_pos short]
  rfl

theorem contents_lt (tag : BitVec 8) (contents : Octets) :
    contents.length < (tagged tag contents).length := by
  rw [tagged, List.length_append, List.length_cons]
  omega

theorem tagged_append_inj (tag : BitVec 8) (contents others rest remaining : Octets)
    (short : (tagged tag contents ++ rest).length ≤ 128)
    (same : tagged tag contents ++ rest = tagged tag others ++ remaining) :
    contents = others ∧ rest = remaining := by
  have own := contents_lt tag contents
  have other := contents_lt tag others
  have long := short
  rw [same] at long
  rw [List.length_append] at short long
  rw [tagged_short tag contents (by omega), tagged_short tag others (by omega)] at same
  obtain ⟨_, lengths, parts⟩ : tag = tag ∧ BitVec.ofNat 8 contents.length = .ofNat 8 others.length ∧
      contents ++ rest = others ++ remaining := by simpa using same
  have numbers := congrArg BitVec.toNat lengths
  rw [BitVec.toNat_ofNat, BitVec.toNat_ofNat] at numbers
  exact List.append_inj parts (by omega)

theorem tagged_inj (tag : BitVec 8) (contents others : Octets)
    (short : (tagged tag contents).length ≤ 128) (same : tagged tag contents = tagged tag others) :
    contents = others :=
  (tagged_append_inj tag contents others [] [] (by rwa [List.append_nil])
    (by rwa [List.append_nil, List.append_nil])).1

theorem pair_iff (left right : Octets) (first second : Int)
    (short : left.length + right.length ≤ 100) :
    IsPair first second (tagged 0x30 (tagged 0x02 left ++ tagged 0x02 right)) ↔
      (Minimal left ∧ signed left = first) ∧ Minimal right ∧ signed right = second := by
  have leftLength : (tagged 0x02 left).length = left.length + 2 := by
    rw [tagged_short 0x02 left (by omega), List.length_cons, List.length_cons]
  have rightLength : (tagged 0x02 right).length = right.length + 2 := by
    rw [tagged_short 0x02 right (by omega), List.length_cons, List.length_cons]
  have inner : (tagged 0x02 left ++ tagged 0x02 right).length ≤ 104 := by
    rw [List.length_append]
    omega
  constructor
  · rintro ⟨_, _, ⟨contents, minimal, number, rfl⟩, ⟨others, least, other, rfl⟩, same⟩
    have bodies := tagged_inj 0x30 _ _
      (by rw [tagged_short 0x30 _ (by omega), List.length_cons, List.length_cons]; omega) same
    obtain ⟨leftSame, tails⟩ := tagged_append_inj 0x02 left contents _ _ (by omega) bodies
    have rightSame := tagged_inj 0x02 right others (by omega) tails
    subst leftSame rightSame
    exact ⟨⟨minimal, number⟩, least, other⟩
  · rintro ⟨⟨minimal, number⟩, least, other⟩
    exact ⟨_, _, ⟨left, minimal, number, rfl⟩, ⟨right, least, other, rfl⟩, rfl⟩

theorem pair_unique (first second : Int) (encoding other : Octets)
    (encodes : IsPair first second encoding) (also : IsPair first second other) :
    encoding = other := by
  obtain ⟨_, _, ⟨left, minimal, number, rfl⟩, ⟨right, least, numbers, rfl⟩, rfl⟩ := encodes
  obtain ⟨_, _, ⟨left', minimal', number', rfl⟩, ⟨right', least', numbers', rfl⟩, rfl⟩ := also
  rw [minimal_unique left left' minimal minimal' (number.trans number'.symm),
    minimal_unique right right' least least' (numbers.trans numbers'.symm)]

end Parsing

end Ptnet.Der
