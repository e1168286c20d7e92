import Mathlib

/-!
Strings of C: the decimal formats, `snprintf` into a buffer of a given size, `atoi`, and the
tokens of `strtok_r`. A text is the bytes before its terminator.
-/

namespace Ptnet.CStrings

abbrev Text := List UInt8

def text (literal : String) : Text := literal.toList.map fun char => char.toNat.toUInt8

def MINUS : UInt8 := 45
def PLUS : UInt8 := 43

def isDigit (byte : UInt8) : Bool := 48 ≤ byte && byte ≤ 57

def isSpace (byte : UInt8) : Bool := byte = 32 || (9 ≤ byte && byte ≤ 13)

/-- `%u` -/
def decimal (value : Nat) : Text := (Nat.toDigits 10 value).map fun char => char.toNat.toUInt8

/-- `%d` -/
def formatInt (value : Int) : Text :=
  if value < 0 then MINUS :: decimal value.natAbs else decimal value.natAbs

/-- `snprintf` at an offset of a buffer: what the buffer then holds, and the result. The text is
    cut so that its terminator fits in `room`. -/
def snprintf (buf : Text) (off room : Nat) (printed : Text) : Text × Nat :=
  (buf.take off ++ printed.take (room - 1), printed.length)

def digitsValue : Text → Nat → Nat
  | [], value => value
  | byte :: rest, value =>
      if isDigit byte then digitsValue rest (value * 10 + (byte.toNat - 48)) else value

/-- `strtol` in base ten, with a `long` of 64 bits. -/
def strtol (input : Text) : Int :=
  match input.dropWhile isSpace with
  | [] => 0
  | first :: rest =>
      if first = MINUS then max (-2 ^ 63) (-(digitsValue rest 0 : Int))
      else if first = PLUS then min (2 ^ 63 - 1) (digitsValue rest 0 : Int)
      else min (2 ^ 63 - 1) (digitsValue (first :: rest) 0 : Int)

def atoi (input : Text) : BitVec 32 := BitVec.ofInt 32 (strtol input)

/-- The tokens that `strtok_r` returns one after the other. -/
def tokens (separator : UInt8) (input : Text) : List Text :=
  (input.splitOn separator).filter (· ≠ [])

section Decimal

theorem digit_byte (digit : Nat) (small : digit < 10) :
    (Nat.digitChar digit).toNat.toUInt8 = UInt8.ofNat (48 + digit) := by
  have each : ∀ digit : Fin 10,
      (Nat.digitChar digit.val).toNat.toUInt8 = UInt8.ofNat (48 + digit.val) := by decide
  exact each ⟨digit, small⟩

theorem decimal_split (value : Nat) :
    decimal value = if value < 10 then [UInt8.ofNat (48 + value)]
      else decimal (value / 10) ++ [UInt8.ofNat (48 + value % 10)] := by
  simp only [decimal]
  rw [Nat.toDigits_eq_if (by decide)]
  split
  · next small => simp [digit_byte value small]
  · simp [digit_byte (value % 10) (Nat.mod_lt _ (by decide))]

theorem digit_read (digit : Nat) (small : digit < 10) :
    isDigit (UInt8.ofNat (48 + digit)) ∧ (UInt8.ofNat (48 + digit)).toNat - 48 = digit := by
  have each : ∀ digit : Fin 10, isDigit (UInt8.ofNat (48 + digit.val)) ∧
      (UInt8.ofNat (48 + digit.val)).toNat - 48 = digit.val := by decide
  exact each ⟨digit, small⟩

theorem decimal_digits (value : Nat) (byte : UInt8) (member : byte ∈ decimal value) :
    isDigit byte := by
  induction value using Nat.strongRecOn with
  | ind value ih =>
      rw [decimal_split] at member
      split at member
      · next small =>
          rw [List.mem_singleton.mp member]
          exact (digit_read value small).1
      · rcases List.mem_append.mp member with front | last
        · exact ih (value / 10) (by omega) front
        · rw [List.mem_singleton.mp last]
          exact (digit_read _ (Nat.mod_lt _ (by decide))).1

theorem decimal_nonempty (value : Nat) : decimal value ≠ [] := by simp [decimal]

theorem decimal_length_le (value count : Nat) (some' : 0 < count) (below : value < 10 ^ count) :
    (decimal value).length ≤ count := by
  rw [decimal, List.length_map]
  exact (Nat.length_toDigits_le_iff (by decide) some').mpr below

theorem digitsValue_append (first last : Text) (value : Nat)
    (digits : ∀ byte ∈ first, isDigit byte) :
    digitsValue (first ++ last) value = digitsValue last (digitsValue first value) := by
  induction first generalizing value with
  | nil => rfl
  | cons byte rest ih =>
      have head := digits byte List.mem_cons_self
      simp only [List.cons_append, digitsValue, head, if_true]
      exact ih _ fun other member => digits other (List.mem_cons_of_mem byte member)

theorem digitsValue_decimal (value : Nat) : digitsValue (decimal value) 0 = value := by
  induction value using Nat.strongRecOn with
  | ind value ih =>
      rw [decimal_split]
      split
      · next small =>
          have only := digit_read value small
          simp only [digitsValue, only, if_true]
          omega
      · have last := digit_read (value % 10) (Nat.mod_lt _ (by decide))
        rw [digitsValue_append _ _ 0 (decimal_digits _), ih (value / 10) (by omega)]
        simp only [digitsValue, last, if_true]
        omega

theorem digitsValue_lt (digits : Text) (value count : Nat) (below : value < 10 ^ count) :
    digitsValue digits value < 10 ^ (count + digits.length) := by
  induction digits generalizing value count with
  | nil => exact below
  | cons byte rest ih =>
      rw [digitsValue, List.length_cons]
      split
      · next digit =>
          have small : byte.toNat - 48 < 10 := by
            simp only [isDigit, Bool.and_eq_true, decide_eq_true_eq, UInt8.le_iff_toNat_le] at digit
            have high := digit.2
            simp at high
            omega
          have step : value * 10 + (byte.toNat - 48) < 10 ^ (count + 1) := by
            rw [Nat.pow_succ]
            omega
          have later := ih _ (count + 1) step
          rwa [Nat.add_assoc, Nat.add_comm 1] at later
      · calc value < 10 ^ count := below
          _ ≤ 10 ^ (count + (rest.length + 1)) := Nat.pow_le_pow_right (by decide) (by omega)

theorem digit_unspaced (byte : UInt8) (digit : isDigit byte) :
    isSpace byte = false ∧ byte ≠ MINUS ∧ byte ≠ PLUS := by
  have each : ∀ value : Fin 256, isDigit (UInt8.ofNat value.val) = true →
      isSpace (UInt8.ofNat value.val) = false ∧ UInt8.ofNat value.val ≠ MINUS ∧
        UInt8.ofNat value.val ≠ PLUS := by decide +kernel
  have known := each ⟨byte.toNat, byte.toNat_lt⟩
  rw [UInt8.ofNat_toNat] at known
  exact known digit

theorem strtol_digits (input : Text) (digits : ∀ byte ∈ input, isDigit byte) :
    strtol input = min (2 ^ 63 - 1) (digitsValue input 0 : Int) := by
  cases input with
  | nil => rfl
  | cons first rest =>
      obtain ⟨unspaced, minus, plus⟩ := digit_unspaced first (digits first List.mem_cons_self)
      rw [strtol, List.dropWhile_cons_of_neg (by simp [unspaced])]
      simp only [minus, plus, if_false]

/-- A number that is not negative is read as it is printed. -/
theorem atoi_formatInt (value : BitVec 32) (natural : 0 ≤ value.toInt) :
    atoi (formatInt value.toInt) = value := by
  have small : value.toInt < 2 ^ 31 := BitVec.toInt_lt
  rw [formatInt, if_neg (Int.not_lt.mpr natural), atoi,
    strtol_digits _ (decimal_digits _), digitsValue_decimal, Int.natAbs_of_nonneg natural,
    Int.min_eq_right (by omega), BitVec.ofInt_toInt]

theorem atoi_length (input : Text) (some' : input ≠ []) (digits : ∀ byte ∈ input, isDigit byte)
    (natural : 0 ≤ (atoi input).toInt) : (formatInt (atoi input).toInt).length ≤ input.length := by
  have size : 0 < input.length := List.length_pos_iff.mpr some'
  have below := digitsValue_lt input 0 0 (by decide)
  rw [formatInt, if_neg (Int.not_lt.mpr natural)]
  apply decimal_length_le _ _ size
  have cut : (atoi input).toInt ≤ strtol input := by
    have read : 0 ≤ strtol input := by
      rw [strtol_digits input digits]
      omega
    have wrapped : (atoi input).toInt = (strtol input).bmod (2 ^ 32) := BitVec.toInt_ofInt _
    rw [wrapped] at natural ⊢
    rw [Int.bmod_def] at natural ⊢
    split at natural <;> omega
  rw [strtol_digits input digits] at cut
  rw [Nat.zero_add] at below
  omega

end Decimal

section Tokens

variable (separator : UInt8)

theorem joined_length (items : List Text) :
    ([separator].intercalate items).length = (items.map List.length).sum + (items.length - 1) := by
  induction items with
  | nil => rfl
  | cons first rest ih =>
      cases rest with
      | nil => simp
      | cons next later =>
          rw [List.intercalate_cons_of_ne_nil (by simp), List.length_append, List.length_append, ih]
          simp only [List.map_cons, List.sum_cons, List.length_cons, List.length_nil]
          omega

theorem tokens_joined (items : List Text) (some' : items ≠ [])
    (proper : ∀ item ∈ items, separator ∉ item ∧ item ≠ []) :
    tokens separator ([separator].intercalate items) = items := by
  rw [tokens, List.splitOn_intercalate separator (fun item member => (proper item member).1) some',
    List.filter_eq_self]
  intro item member
  simpa using (proper item member).2

/-- Tokens that are joined again make no more than the text that they were taken from. -/
theorem tokens_length (input : Text) :
    ([separator].intercalate (tokens separator input)).length ≤ input.length := by
  have rejoined : [separator].intercalate (input.splitOn separator) = input :=
    List.intercalate_splitOn separator
  have whole := congrArg List.length rejoined
  rw [joined_length] at whole ⊢
  have kept := List.filter_sublist (p := fun piece : Text => decide (piece ≠ []))
    (l := input.splitOn separator)
  have lengths := (kept.map List.length).sum_le_sum (by simp)
  have count := kept.length_le
  rw [tokens]
  omega

theorem tokens_nonempty (input : Text) (token : Text) (member : token ∈ tokens separator input) :
    token ≠ [] := by
  simpa using (List.mem_filter.mp member).2

theorem splitOn_count (input : Text) :
    (input.splitOn separator).length = input.count separator + 1 := by
  induction input with
  | nil => simp
  | cons first rest ih =>
      rw [List.splitOn_cons_eq_if_modifyHead, List.count_cons]
      split
      · rw [List.length_cons, ih]
      · rw [List.length_modifyHead, ih]

theorem tokens_count (input : Text) :
    (tokens separator input).length ≤ input.count separator + 1 := by
  rw [tokens, ← splitOn_count]
  exact List.length_filter_le _ _

theorem splitOn_bytes (input piece : Text) (member : piece ∈ input.splitOn separator)
    (byte : UInt8) (inside : byte ∈ piece) : byte ∈ input ∧ byte ≠ separator := by
  induction input generalizing piece with
  | nil =>
      rw [List.splitOn_nil, List.mem_singleton] at member
      subst member
      cases inside
  | cons first rest ih =>
      rw [List.splitOn_cons_eq_if_modifyHead] at member
      split at member
      · rcases List.mem_cons.mp member with rfl | later
        · cases inside
        · have known := ih piece later inside
          exact ⟨List.mem_cons_of_mem first known.1, known.2⟩
      · next other =>
          cases pieces : rest.splitOn separator with
          | nil => exact absurd pieces (List.splitOn_ne_nil separator rest)
          | cons head tail =>
              rw [pieces, List.modifyHead_cons] at member
              rcases List.mem_cons.mp member with rfl | later
              · rcases List.mem_cons.mp inside with rfl | deeper
                · exact ⟨List.mem_cons_self, by simpa using other⟩
                · have known := ih head (pieces ▸ List.mem_cons_self) deeper
                  exact ⟨List.mem_cons_of_mem first known.1, known.2⟩
              · have known := ih piece (pieces ▸ List.mem_cons_of_mem head later) inside
                exact ⟨List.mem_cons_of_mem first known.1, known.2⟩

theorem tokens_bytes (input token : Text) (member : token ∈ tokens separator input) (byte : UInt8)
    (inside : byte ∈ token) : byte ∈ input ∧ byte ≠ separator :=
  splitOn_bytes separator input token (List.mem_filter.mp member).1 byte inside

end Tokens

end Ptnet.CStrings
