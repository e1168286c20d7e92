import Ptnet.BigEndian
import Ptnet.BitStrings
import Ptnet.KotlinText

/-!
`Utils.base32Decode`, with which a licence is read, against the unpadded base32 of RFC 4648. The
loop keeps the bits that make no byte yet in `curByte`; the array it writes to is made first, and
its size is computed in 32 bits.
-/

namespace Ptnet.Base32

open BigEndian BitStrings KotlinText

/-- What is thrown. -/
inductive Thrown where
  | illegalArgument
  | negativeArraySize
  | arrayIndexOutOfBounds
  deriving DecidableEq, Repr

/-- The value of a digit of the alphabet. -/
def charValue (element : CodeUnit) : Option Nat :=
  if within '2' '7' element then some (26 + (element.toNat - '2'.toNat))
  else if within 'A' 'Z' element then some (element.toNat - 'A'.toNat)
  else none

/-- `s.length * 5 / 8`, with an `Int` product. -/
def arraySize (length : Nat) : Int := (BitVec.ofNat 32 length * 5).toInt.tdiv 8

structure Decoder where
  rv : List (BitVec 8)
  i : Nat := 0
  bitsRemaining : Nat := 8
  curByte : BitVec 8 := 0
  deriving DecidableEq, Repr

/-- `(curByte.toInt() or mask).toByte()` -/
def join (curByte : BitVec 8) (mask : BitVec 32) : BitVec 8 :=
  (curByte.signExtend 32 ||| mask).setWidth 8

/-- One iteration of the loop. -/
def decodeChar (decoder : Decoder) (element : CodeUnit) : Except Thrown Decoder :=
  match charValue element with
  | none => .error .illegalArgument
  | some value =>
      let val := BitVec.ofNat 32 value
      if 5 < decoder.bitsRemaining then
        let mask := val <<< (decoder.bitsRemaining - 5)
        .ok { decoder with
          curByte := join decoder.curByte mask
          bitsRemaining := decoder.bitsRemaining - 5 }
      else
        let mask := val.sshiftRight (5 - decoder.bitsRemaining)
        if decoder.i < decoder.rv.length then
          .ok
            { rv := decoder.rv.set decoder.i (join decoder.curByte mask)
              i := decoder.i + 1
              bitsRemaining := decoder.bitsRemaining + 3
              curByte := (val <<< (3 + decoder.bitsRemaining)).setWidth 8 }
        else .error .arrayIndexOutOfBounds

/-- The bits that are left are stored where the array has room for them. -/
def finish (decoder : Decoder) : List (BitVec 8) :=
  if decoder.i < decoder.rv.length then decoder.rv.set decoder.i decoder.curByte else decoder.rv

def cleaned (input : Text) : Text := (input.map uppercase).filter (· ≠ unit '\n')

def base32Decode (input : Text) : Except Thrown (List (BitVec 8)) :=
  let s := cleaned input
  if arraySize s.length < 0 then .error .negativeArraySize
  else (s.foldlM decodeChar { rv := List.replicate (arraySize s.length).toNat 0 }).map finish

section Encoding

/-- The alphabet of RFC 4648 for base32. -/
def alphabet (value : Nat) : CodeUnit :=
  if value < 26 then .ofNat ('A'.toNat + value) else .ofNat ('2'.toNat + (value - 26))

def digits (bytes : List (BitVec 8)) : List Nat :=
  (quintets (bytes.flatMap fun byte => bits 8 byte.toNat)).map number

def encode (bytes : List (BitVec 8)) : Text := (digits bytes).map alphabet

def lowercase (element : CodeUnit) : CodeUnit :=
  if within 'A' 'Z' element then .ofNat (element.toNat + 32) else element

def visible (text : Text) : Text := text.filter (· ≠ unit '\n')

/-- A text of the bytes: either case for each letter, and newlines anywhere. -/
def Spells (text : Text) (bytes : List (BitVec 8)) : Prop :=
  List.Forall₂ (fun element digit => element = digit ∨ element = lowercase digit)
    (visible text) (encode bytes)

def Foreign (element : CodeUnit) : Prop :=
  (within 'A' 'Z' element || within 'a' 'z' element || within '2' '7' element ||
    element == unit '\n') = false

instance (element : CodeUnit) : Decidable (Foreign element) :=
  inferInstanceAs (Decidable (_ = false))

/-- The characters that count and stand before the first foreign one. -/
def known (text : Text) : Text := (visible text).takeWhile fun element => !decide (Foreign element)

/-- Five times a length, as an `Int` holds it. -/
def product (length : Nat) : Int := Int.bmod (5 * length) (2 ^ 32)

end Encoding

section Bits

theorem join_toNat (curByte : BitVec 8) (mask : BitVec 32) (high room : Nat)
    (current : curByte.toNat = high * 2 ^ room) (small : mask.toNat < 2 ^ room)
    (byte : room ≤ 8) : (join curByte mask).toNat = curByte.toNat + mask.toNat := by
  have fits : mask.toNat < 256 :=
    Nat.lt_of_lt_of_le small (Nat.pow_le_pow_right (by decide) byte)
  have bytes : join curByte mask = curByte ||| mask.setWidth 8 := by
    apply BitVec.eq_of_getLsbD_eq
    intro index below
    have inside : index < 32 := by omega
    simp [join, BitVec.getElem_signExtend, below, inside]
  have whole := Nat.two_pow_add_eq_or_of_lt small high
  rw [bytes, BitVec.toNat_or, BitVec.toNat_setWidth, Nat.mod_eq_of_lt fits, current,
    Nat.mul_comm, ← whole]

theorem shiftLeft_toNat (value distance : Nat) (small : value < 32) (near : distance ≤ 8) :
    (BitVec.ofNat 32 value <<< distance).toNat = value * 2 ^ distance := by
  have large : 2 ^ distance ≤ 2 ^ 8 := Nat.pow_le_pow_right (by decide) near
  have product : value * 2 ^ distance < 2 ^ 32 :=
    calc value * 2 ^ distance ≤ 31 * 2 ^ 8 := Nat.mul_le_mul (by omega) large
      _ < 2 ^ 32 := by decide
  have whole : value % 2 ^ 32 = value := Nat.mod_eq_of_lt (by omega)
  rw [BitVec.toNat_shiftLeft, BitVec.toNat_ofNat, whole, Nat.shiftLeft_eq,
    Nat.mod_eq_of_lt product]

theorem sshiftRight_toNat (value distance : Nat) (small : value < 32) :
    ((BitVec.ofNat 32 value).sshiftRight distance).toNat = value / 2 ^ distance := by
  have positive : (BitVec.ofNat 32 value).msb = false := by
    rw [BitVec.msb_eq_decide, BitVec.toNat_ofNat, Nat.mod_eq_of_lt (by omega)]
    exact decide_eq_false (by omega)
  rw [BitVec.sshiftRight_eq_of_msb_false positive, BitVec.toNat_ushiftRight, BitVec.toNat_ofNat,
    Nat.mod_eq_of_lt (by omega), Nat.shiftRight_eq_div_pow]

end Bits

section Loop

/-- The loop after some digits: the bytes that are complete are written, the bits behind them are
    the high ones of `curByte`. -/
structure Decoded (size : Nat) (values : List Nat) (decoder : Decoder) : Prop where
  length : decoder.rv.length = size
  position : decoder.i = 5 * values.length / 8
  remaining : decoder.bitsRemaining = 8 - 5 * values.length % 8
  current : decoder.curByte.toNat =
    numeral 32 values % 2 ^ (5 * values.length % 8) * 2 ^ (8 - 5 * values.length % 8)
  written : value (decoder.rv.take decoder.i) = numeral 32 values / 2 ^ (5 * values.length % 8)

theorem decoded_start (size : Nat) :
    Decoded size [] { rv := List.replicate size 0 } where
  length := List.length_replicate
  position := rfl
  remaining := rfl
  current := rfl
  written := rfl

variable (size : Nat) (values : List Nat) (decoder : Decoder)

theorem decodeChar_kept (decoded : Decoded size values decoder) (element : CodeUnit)
    (digit : Nat) (read : charValue element = some digit) (small : digit < 32)
    (few : 5 * values.length % 8 < 3) :
    ∃ after, decodeChar decoder element = .ok after ∧
      Decoded size (values ++ [digit]) after := by
  obtain ⟨rest, held⟩ : ∃ rest, 5 * values.length % 8 = rest := ⟨_, rfl⟩
  rw [held] at few
  have room : 5 < decoder.bitsRemaining := by
    rw [decoded.remaining, held]
    omega
  have distance : decoder.bitsRemaining - 5 = 3 - rest := by
    rw [decoded.remaining, held]
    omega
  have mask := shiftLeft_toNat digit (3 - rest) small (by omega)
  have current := decoded.current
  have written := decoded.written
  rw [held] at current written
  have next : 5 * (values ++ [digit]).length % 8 = rest + 5 := by
    rw [List.length_append, List.length_singleton]
    omega
  have joined := join_toNat decoder.curByte (BitVec.ofNat 32 digit <<< (3 - rest)) _ (8 - rest)
    current (by
      rw [mask, show 8 - rest = 5 + (3 - rest) by omega, pow_add]
      exact Nat.mul_lt_mul_of_pos_right small (Nat.two_pow_pos _)) (by omega)
  rw [decodeChar, read]
  dsimp only
  rw [if_pos room, distance]
  refine ⟨_, rfl, ⟨decoded.length, ?_, ?_, ?_, ?_⟩⟩
  · show decoder.i = _
    rw [decoded.position, List.length_append, List.length_singleton]
    omega
  · show 3 - rest = _
    rw [next]
    omega
  · show (join decoder.curByte (BitVec.ofNat 32 digit <<< (3 - rest))).toNat = _
    rw [joined, current, mask, next, numeral_concat]
    interval_cases rest <;> omega
  · show value (decoder.rv.take decoder.i) = _
    rw [written, next, numeral_concat]
    interval_cases rest <;> omega

theorem decodeChar_stored (decoded : Decoded size values decoder) (element : CodeUnit)
    (digit : Nat) (read : charValue element = some digit) (small : digit < 32)
    (many : 3 ≤ 5 * values.length % 8) (fits : 5 * values.length / 8 < size) :
    ∃ after, decodeChar decoder element = .ok after ∧
      Decoded size (values ++ [digit]) after := by
  obtain ⟨rest, held⟩ : ∃ rest, 5 * values.length % 8 = rest := ⟨_, rfl⟩
  have below : rest < 8 := by omega
  rw [held] at many
  have remaining : decoder.bitsRemaining = 8 - rest := by
    rw [decoded.remaining, held]
  have inside : decoder.i < decoder.rv.length := by
    rw [decoded.position, decoded.length]
    exact fits
  have mask := sshiftRight_toNat digit (5 - (8 - rest)) small
  have shifted := shiftLeft_toNat digit (3 + (8 - rest)) small (by omega)
  have current := decoded.current
  have written := decoded.written
  rw [held] at current written
  have next : 5 * (values ++ [digit]).length % 8 = rest - 3 := by
    rw [List.length_append, List.length_singleton]
    omega
  have joined := join_toNat decoder.curByte
    ((BitVec.ofNat 32 digit).sshiftRight (5 - (8 - rest))) _ (8 - rest) current (by
      rw [mask]
      interval_cases rest <;> omega) (by omega)
  rw [decodeChar, read]
  dsimp only
  rw [if_neg (by omega), if_pos inside, remaining]
  refine ⟨_, rfl, ⟨?_, ?_, ?_, ?_, ?_⟩⟩
  · rw [List.length_set, decoded.length]
  · show decoder.i + 1 = _
    rw [decoded.position, List.length_append, List.length_singleton]
    omega
  · show 8 - rest + 3 = _
    rw [next]
    omega
  · show ((BitVec.ofNat 32 digit <<< (3 + (8 - rest))).setWidth 8).toNat = _
    rw [BitVec.toNat_setWidth, shifted, next, numeral_concat]
    interval_cases rest <;> omega
  · show value ((decoder.rv.set decoder.i _).take (decoder.i + 1)) = _
    rw [List.take_succ_eq_append_getElem (by rwa [List.length_set]), List.getElem_set_self,
      List.take_set_of_le (Nat.le_refl _), value_concat, joined, written, current, mask, next,
      numeral_concat]
    interval_cases rest <;> omega

theorem decodeChar_overflows (decoded : Decoded size values decoder) (element : CodeUnit)
    (digit : Nat) (read : charValue element = some digit)
    (many : 3 ≤ 5 * values.length % 8) (full : size ≤ 5 * values.length / 8) :
    decodeChar decoder element = .error .arrayIndexOutOfBounds := by
  have short : ¬5 < decoder.bitsRemaining := by
    rw [decoded.remaining]
    omega
  have outside : ¬decoder.i < decoder.rv.length := by
    rw [decoded.position, decoded.length]
    omega
  rw [decodeChar, read]
  dsimp only
  rw [if_neg short, if_neg outside]

theorem decodeChar_decoded (decoded : Decoded size values decoder) (element : CodeUnit)
    (digit : Nat) (read : charValue element = some digit) (small : digit < 32)
    (fits : 5 * (values.length + 1) / 8 ≤ size) :
    ∃ after, decodeChar decoder element = .ok after ∧
      Decoded size (values ++ [digit]) after := by
  by_cases few : 5 * values.length % 8 < 3
  · exact decodeChar_kept size values decoder decoded element digit read small few
  · exact decodeChar_stored size values decoder decoded element digit read small (by omega)
      (by omega)

theorem charValue_lt (element : CodeUnit) (digit : Nat) (read : charValue element = some digit) :
    digit < 32 := by
  unfold charValue at read
  split at read
  next figure =>
      have bounds := (within_iff _ _ _).mp figure
      have most : '7'.toNat = 55 := rfl
      have least : '2'.toNat = 50 := rfl
      cases read
      omega
  next =>
      split at read
      next letter =>
          have bounds := (within_iff _ _ _).mp letter
          have most : 'Z'.toNat = 90 := rfl
          have least : 'A'.toNat = 65 := rfl
          cases read
          omega
      next => cases read

abbrev Reads (elements : Text) (digits : List Nat) : Prop :=
  List.Forall₂ (fun element digit => charValue element = some digit) elements digits

variable {size values decoder}

theorem decode_run {elements : Text} {digits : List Nat} (reads : Reads elements digits)
    (decoded : Decoded size values decoder)
    (fits : 5 * (values.length + digits.length) / 8 ≤ size) :
    ∃ after, elements.foldlM decodeChar decoder = .ok after ∧
      Decoded size (values ++ digits) after := by
  induction reads generalizing values decoder with
  | nil => exact ⟨decoder, rfl, by rwa [List.append_nil]⟩
  | @cons element digit elements digits read _ ih =>
      rw [List.length_cons] at fits
      obtain ⟨next, stepped, kept⟩ := decodeChar_decoded size values decoder decoded element digit
        read (charValue_lt element digit read) (by omega)
      have rest := ih kept (by rw [List.length_append, List.length_singleton]; omega)
      rw [List.append_assoc, List.singleton_append] at rest
      rwa [List.foldlM_cons, stepped]

theorem overflow_run {elements : Text} {digits : List Nat} (reads : Reads elements digits)
    (decoded : Decoded size values decoder) (fits : 5 * values.length / 8 ≤ size)
    (long : size < 5 * (values.length + digits.length) / 8) :
    elements.foldlM decodeChar decoder = .error .arrayIndexOutOfBounds := by
  induction reads generalizing values decoder with
  | nil => exact absurd fits (Nat.not_le.mpr long)
  | @cons element digit elements digits read _ ih =>
      rw [List.length_cons] at long
      by_cases room : 5 * (values.length + 1) / 8 ≤ size
      · obtain ⟨next, stepped, kept⟩ := decodeChar_decoded size values decoder decoded element
          digit read (charValue_lt element digit read) room
        rw [List.foldlM_cons, stepped]
        apply ih kept
        · rwa [List.length_append, List.length_singleton]
        · rw [List.length_append, List.length_singleton]
          omega
      · rw [List.foldlM_cons, decodeChar_overflows size values decoder decoded element digit read
          (by omega) (by omega)]
        rfl

end Loop

section Characters

theorem digit_read : ∀ digit < 32, charValue (uppercase (alphabet digit)) = some digit ∧
    charValue (uppercase (lowercase (alphabet digit))) = some digit := by
  decide

theorem uppercase_toNat (element : CodeUnit) :
    (uppercase element).toNat =
      if 97 ≤ element.toNat ∧ element.toNat ≤ 122 then element.toNat - 32 else element.toNat := by
  have least : 'a'.toNat = 97 := rfl
  have most : 'z'.toNat = 122 := rfl
  have bound := element.toNat_lt
  unfold uppercase
  by_cases small : within 'a' 'z' element = true
  · have between := (within_iff _ _ _).mp small
    rw [least, most] at between
    rw [if_pos small, if_pos between, UInt16.toNat_ofNat']
    exact Nat.mod_eq_of_lt (by omega)
  · have outside : ¬(97 ≤ element.toNat ∧ element.toNat ≤ 122) :=
      fun between => small ((within_iff _ _ _).mpr between)
    rw [if_neg small, if_neg outside]

theorem uppercase_newline (element : CodeUnit) :
    uppercase element = unit '\n' ↔ element = unit '\n' := by
  have newline : (unit '\n').toNat = 10 := rfl
  have upper := uppercase_toNat element
  rw [← UInt16.toNat_inj, ← UInt16.toNat_inj, newline, upper]
  split <;> omega

theorem charValue_none_iff (element : CodeUnit) : charValue element = none ↔
    ¬(50 ≤ element.toNat ∧ element.toNat ≤ 55) ∧ ¬(65 ≤ element.toNat ∧ element.toNat ≤ 90) := by
  have figure := within_iff '2' '7' element
  have letter := within_iff 'A' 'Z' element
  rw [show '2'.toNat = 50 by rfl, show '7'.toNat = 55 by rfl] at figure
  rw [show 'A'.toNat = 65 by rfl, show 'Z'.toNat = 90 by rfl] at letter
  rw [← figure, ← letter, charValue]
  cases within '2' '7' element <;> cases within 'A' 'Z' element <;> simp

theorem foreign_iff (element : CodeUnit) : Foreign element ↔
    ¬(65 ≤ element.toNat ∧ element.toNat ≤ 90) ∧ ¬(97 ≤ element.toNat ∧ element.toNat ≤ 122) ∧
      ¬(50 ≤ element.toNat ∧ element.toNat ≤ 55) ∧ element ≠ unit '\n' := by
  have large := within_iff 'A' 'Z' element
  have small := within_iff 'a' 'z' element
  have figure := within_iff '2' '7' element
  rw [show 'A'.toNat = 65 by rfl, show 'Z'.toNat = 90 by rfl] at large
  rw [show 'a'.toNat = 97 by rfl, show 'z'.toNat = 122 by rfl] at small
  rw [show '2'.toNat = 50 by rfl, show '7'.toNat = 55 by rfl] at figure
  rw [← large, ← small, ← figure, Foreign]
  cases within 'A' 'Z' element <;> cases within 'a' 'z' element <;>
    cases within '2' '7' element <;> simp

theorem foreign_read (element : CodeUnit) (visible : element ≠ unit '\n') :
    Foreign element ↔ charValue (uppercase element) = none := by
  have upper := uppercase_toNat element
  rw [foreign_iff, charValue_none_iff, upper]
  constructor
  · rintro ⟨large, small, figure, _⟩
    rw [if_neg small]
    exact ⟨figure, large⟩
  · rintro ⟨figure, letter⟩
    by_cases small : 97 ≤ element.toNat ∧ element.toNat ≤ 122
    · rw [if_pos small] at letter
      omega
    · rw [if_neg small] at figure letter
      exact ⟨letter, small, figure, visible⟩

theorem cleaned_eq (text : Text) : cleaned text = (visible text).map uppercase := by
  rw [cleaned, visible, List.filter_map]
  congr 1
  apply List.filter_congr
  intro element _
  show decide (uppercase element ≠ unit '\n') = decide (element ≠ unit '\n')
  rw [decide_eq_decide, ne_eq, ne_eq, uppercase_newline]

theorem reads_visible (text : Text)
    (known : ∀ element ∈ text, element ≠ unit '\n' ∧ ¬Foreign element) :
    ∃ digits, Reads (text.map uppercase) digits := by
  induction text with
  | nil => exact ⟨[], .nil⟩
  | cons element rest ih =>
      obtain ⟨digits, reads⟩ := ih fun other member => known other (.tail _ member)
      obtain ⟨visible, own⟩ := known element (.head _)
      obtain ⟨digit, read⟩ := Option.ne_none_iff_exists'.mp
        fun none => own ((foreign_read element visible).mpr none)
      exact ⟨digit :: digits, .cons read reads⟩

end Characters

section Encoded

theorem flatMap_bits_length (bytes : List (BitVec 8)) :
    (bytes.flatMap fun byte => bits 8 byte.toNat).length = 8 * bytes.length := by
  induction bytes with
  | nil => rfl
  | cons byte rest ih =>
      rw [List.flatMap_cons, List.length_append, bits_length, ih, List.length_cons]
      omega

theorem number_flatMap_bits (bytes : List (BitVec 8)) :
    number (bytes.flatMap fun byte => bits 8 byte.toNat) = value bytes := by
  induction bytes using List.reverseRecOn with
  | nil => rfl
  | append_singleton before last ih =>
      rw [List.flatMap_append, List.flatMap_singleton, number_append, ih, bits_length,
        number_bits 8 _ last.isLt, value_concat]
      rfl

variable (bytes : List (BitVec 8))

theorem digits_length : (digits bytes).length = (8 * bytes.length + 4) / 5 := by
  rw [digits, List.length_map, quintets_length, flatMap_bits_length]

theorem digits_lt : ∀ digit ∈ digits bytes, digit < 32 := by
  intro digit member
  obtain ⟨group, among, rfl⟩ := List.mem_map.mp member
  exact quintets_small _ group among

theorem digits_numeral : numeral 32 (digits bytes) =
    value bytes * 2 ^ (5 * (digits bytes).length - 8 * bytes.length) := by
  have regrouped := quintets_numeral (bytes.flatMap fun byte => bits 8 byte.toNat)
  rwa [number_flatMap_bits, flatMap_bits_length, ← List.length_map number] at regrouped

theorem reads_spelled (text : Text) (spells : Spells text bytes) :
    Reads ((visible text).map uppercase) (digits bytes) := by
  have small := digits_lt bytes
  unfold Spells encode at spells
  rw [List.forall₂_map_right_iff] at spells
  rw [Reads, List.forall₂_map_left_iff]
  generalize visible text = elements at spells ⊢
  generalize digits bytes = values at spells small ⊢
  revert small
  induction spells with
  | nil => exact fun _ => .nil
  | @cons element digit elements digits same _ ih =>
      intro small
      refine .cons ?_ (ih fun other member => small other (.tail _ member))
      obtain ⟨upper, lower⟩ := digit_read digit (small digit (.head _))
      rcases same with rfl | rfl
      · exact upper
      · exact lower

end Encoded

section Size

variable (length : Nat)

theorem arraySize_eq : arraySize length = (product length).tdiv 8 := by
  have same : BitVec.ofNat 32 length * 5 = BitVec.ofNat 32 (5 * length) := by
    rw [show (5 : BitVec 32) = BitVec.ofNat 32 5 by rfl, ← BitVec.ofNat_mul, Nat.mul_comm]
  unfold arraySize product
  rw [same, BitVec.toInt_ofNat']
  norm_num

theorem product_small (small : 5 * length < 2 ^ 31) : product length = (5 * length : Nat) := by
  have least : -(((2 ^ 32 : Nat) : Int) / 2) ≤ 5 * (length : Int) := by omega
  have most : 5 * (length : Int) < (((2 ^ 32 : Nat) : Int) + 1) / 2 := by omega
  unfold product
  rw [Int.bmod_eq_of_le least most, Int.natCast_mul]
  rfl

theorem product_lt : product length < 2 ^ 31 :=
  Int.lt_of_lt_of_le (Int.bmod_lt (by decide)) (by decide)

theorem arraySize_small (small : 5 * length < 2 ^ 31) :
    arraySize length = (5 * length / 8 : Nat) := by
  rw [arraySize_eq, product_small length small,
    Int.tdiv_eq_ediv_of_nonneg (Int.natCast_nonneg _)]
  exact (Int.natCast_ediv _ _).symm

theorem arraySize_lt : arraySize length < 2 ^ 28 := by
  have below : product length ≤ 2 ^ 31 - 1 := Int.le_sub_one_of_lt (product_lt length)
  have divided := Int.tdiv_le_tdiv (show (0 : Int) < 8 by decide) below
  rw [arraySize_eq]
  exact Int.lt_of_le_of_lt divided (by decide)

theorem arraySize_nonneg : 0 ≤ arraySize length ↔ -8 < product length := by
  rw [arraySize_eq, Int.tdiv_eq_ediv, show Int.sign 8 = 1 by rfl]
  split <;> omega

end Size

section Result

variable (text : Text)

theorem decoded_bytes (bytes : List (BitVec 8)) (decoder : Decoder)
    (decoded : Decoded bytes.length (digits bytes) decoder) : finish decoder = bytes := by
  have counted := digits_length bytes
  have position : decoder.i = bytes.length := by
    rw [decoded.position]
    omega
  have full : ¬decoder.i < decoder.rv.length := by
    rw [position, decoded.length]
    exact Nat.lt_irrefl _
  have rest : 5 * (digits bytes).length % 8 = 5 * (digits bytes).length - 8 * bytes.length := by
    omega
  have written := decoded.written
  rw [rest, digits_numeral, Nat.mul_div_cancel _ (Nat.two_pow_pos _), position, ← decoded.length,
    List.take_length] at written
  rw [finish, if_neg full]
  exact BigEndian.value_injective decoder.rv bytes decoded.length written

theorem finish_length (decoder : Decoder) : (finish decoder).length = decoder.rv.length := by
  unfold finish
  split
  · exact List.length_set
  · rfl

theorem base32Decode_eq : base32Decode text =
    if arraySize (visible text).length < 0 then .error .negativeArraySize
    else (((visible text).map uppercase).foldlM decodeChar
      { rv := List.replicate (arraySize (visible text).length).toNat 0 }).map finish := by
  unfold base32Decode
  dsimp only
  rw [cleaned_eq, List.length_map]

/-- The bytes come back where five times the length is an `Int`. -/
theorem spelled_decoded (bytes : List (BitVec 8)) (spells : Spells text bytes)
    (small : 5 * (visible text).length < 2 ^ 31) : base32Decode text = .ok bytes := by
  have reads := reads_spelled bytes text spells
  have counted := digits_length bytes
  have same := reads.length_eq
  rw [List.length_map] at same
  have size : arraySize (visible text).length = bytes.length := by
    rw [arraySize_small _ small, same]
    omega
  obtain ⟨after, run, decoded⟩ := decode_run reads (decoded_start bytes.length)
    (by rw [List.length_nil]; omega)
  rw [base32Decode_eq, size, if_neg (Int.not_lt.mpr (Int.natCast_nonneg _)), Int.toNat_natCast, run]
  exact congrArg Except.ok (decoded_bytes bytes after decoded)

/-- Whatever comes back for a text of bytes is short. -/
theorem spelled_short (bytes : List (BitVec 8)) (spells : Spells text bytes)
    (others : List (BitVec 8)) (result : base32Decode text = .ok others) :
    others.length < 2 ^ 28 := by
  have reads := reads_spelled bytes text spells
  have short := arraySize_lt (visible text).length
  rw [base32Decode_eq] at result
  split at result
  next => cases result
  next =>
      have start := decoded_start (arraySize (visible text).length).toNat
      by_cases fits : 5 * (digits bytes).length / 8 ≤ (arraySize (visible text).length).toNat
      · obtain ⟨after, run, decoded⟩ := decode_run reads start
          (by rwa [List.length_nil, Nat.zero_add])
        rw [run] at result
        cases result
        rw [finish_length, decoded.length]
        omega
      · rw [overflow_run reads start (Nat.zero_le _)
          (by rw [List.length_nil, Nat.zero_add]; omega)] at result
        cases result

theorem spelled_iff (bytes : List (BitVec 8)) (spells : Spells text bytes) :
    base32Decode text = .ok bytes ↔ 5 * (visible text).length < 2 ^ 31 := by
  refine ⟨fun result => ?_, spelled_decoded text bytes spells⟩
  have short := spelled_short text bytes spells bytes result
  have counted := digits_length bytes
  have same := (reads_spelled bytes text spells).length_eq
  rw [List.length_map] at same
  omega

theorem first_foreign (present : ∃ element ∈ text, Foreign element) :
    ∃ element rest, visible text = known text ++ element :: rest ∧ Foreign element := by
  obtain ⟨foreign, member, own⟩ := present
  have counts : foreign ∈ visible text :=
    List.mem_filter.mpr ⟨member, decide_eq_true ((foreign_iff foreign).mp own).2.2.2⟩
  have parts := List.takeWhile_append_dropWhile (p := fun element => !decide (Foreign element))
    (l := visible text)
  have head := List.head?_dropWhile_not (fun element => !decide (Foreign element)) (visible text)
  cases held : (visible text).dropWhile fun element => !decide (Foreign element) with
  | nil =>
      have none := List.dropWhile_eq_nil_iff.mp held foreign counts
      exact absurd own (by simpa using none)
  | cons element rest =>
      rw [held] at parts head
      exact ⟨element, rest, parts.symm, by simpa using head⟩

theorem known_reads : ∃ digits, Reads ((known text).map uppercase) digits := by
  apply reads_visible
  intro element member
  have counts : element ∈ visible text := (List.takeWhile_sublist _).mem member
  have own := List.mem_takeWhile_imp member
  exact ⟨of_decide_eq_true (List.mem_filter.mp counts).2, by simpa using own⟩

/-- The first foreign character ends the loop, unless the array is full before it. -/
theorem foreign_iff_thrown (present : ∃ element ∈ text, Foreign element) :
    base32Decode text = .error .illegalArgument ↔ -8 < product (visible text).length ∧
      5 * (known text).length / 8 ≤ (product (visible text).length).tdiv 8 := by
  obtain ⟨digits, reads⟩ := known_reads text
  obtain ⟨element, rest, whole, own⟩ := first_foreign text present
  have same := reads.length_eq
  have hidden := (foreign_read element ((foreign_iff element).mp own).2.2.2).mp own
  rw [List.length_map] at same
  rw [base32Decode_eq, ← arraySize_nonneg, ← arraySize_eq, same]
  generalize arraySize (visible text).length = size
  rw [whole, List.map_append, List.map_cons, List.foldlM_append]
  have start := decoded_start size.toNat
  by_cases negative : size < 0
  · rw [if_pos negative]
    exact iff_of_false (by rintro ⟨⟩) fun room => by omega
  · rw [if_neg negative]
    by_cases fits : 5 * digits.length / 8 ≤ size.toNat
    · obtain ⟨after, run, decoded⟩ := decode_run reads start
        (by rwa [List.length_nil, Nat.zero_add])
      have stopped : decodeChar after (uppercase element) = .error .illegalArgument := by
        rw [decodeChar, hidden]
      rw [run]
      show Except.map finish (List.foldlM decodeChar after (uppercase element :: _)) = _ ↔ _
      rw [List.foldlM_cons, stopped]
      exact ⟨fun _ => by omega, fun _ => rfl⟩
    · rw [overflow_run reads start (Nat.zero_le _)
        (by rw [List.length_nil, Nat.zero_add]; omega)]
      exact iff_of_false (by rintro ⟨⟩) fun room => by omega

/-- Five times the length of a text is computed as an `Int`: the bytes come back where it is one,
    and a foreign character is reported unless the array that was made is too short for what is
    before it. -/
theorem base32Decode_iff : (∀ bytes, Spells text bytes →
      (base32Decode text = .ok bytes ↔ 5 * (visible text).length < 2 ^ 31)) ∧
    ((∃ element ∈ text, Foreign element) →
      (base32Decode text = .error .illegalArgument ↔ -8 < product (visible text).length ∧
        5 * (known text).length / 8 ≤ (product (visible text).length).tdiv 8)) :=
  ⟨spelled_iff text, foreign_iff_thrown text⟩

theorem base32Decode_iff_foo :
    base32Decode ("mzX\nw6".toList.map unit) = .ok [0x66#8, 0x6f#8, 0x6f#8] ∧
      base32Decode ("MZXW6=".toList.map unit) = .error .illegalArgument :=
  ⟨((base32Decode_iff _).1 _ (by simp only [Spells]; decide)).mpr (by decide),
    ((base32Decode_iff _).2 (by decide)).mpr (by decide)⟩

end Result

section LongTexts

variable (bytes : List (BitVec 8))

theorem visible_encode : visible (encode bytes) = encode bytes := by
  have clear : ∀ digit < 32, alphabet digit ≠ unit '\n' := by decide
  apply List.filter_eq_self.mpr
  intro element member
  obtain ⟨digit, among, rfl⟩ := List.mem_map.mp member
  exact decide_eq_true (clear digit (digits_lt bytes digit among))

theorem encode_spells : Spells (encode bytes) bytes := by
  rw [Spells, visible_encode]
  exact List.forall₂_same.mpr fun _ _ => .inl rfl

theorem long_thrown (long : bytes.length = 2 ^ 28) :
    base32Decode (encode bytes) = .error .negativeArraySize := by
  have length : (visible (encode bytes)).length = 429496730 := by
    rw [visible_encode, encode, List.length_map, digits_length, long]
    norm_num
  rw [base32Decode_eq, length]
  exact if_pos (by decide)

/-- 256 MiB of zeros: the array would have a negative size. -/
theorem zeros_thrown :
    Spells (encode (List.replicate (2 ^ 28) 0#8)) (List.replicate (2 ^ 28) 0#8) ∧
      base32Decode (encode (List.replicate (2 ^ 28) 0#8)) = .error .negativeArraySize :=
  ⟨encode_spells _, long_thrown _ List.length_replicate⟩

end LongTexts

end Ptnet.Base32
