import Ptnet.KotlinText
import Ptnet.Patterns

/-!
`Utils.validateIpv4Address`: the pattern takes exactly the four decimal octets with dots between
them.
-/

namespace Ptnet.Ipv4Text

open KotlinText Patterns

def symbol (char : Char) : Pattern CodeUnit := .one (within char char)

def range (first last : Char) : Pattern CodeUnit := .one (within first last)

/-- What may follow `$`: nothing, or the line terminator that ends the text. -/
def lineEnds : List Text :=
  [[], [0x0a], [0x0d, 0x0a], [0x0d], [0x85], [0x2028], [0x2029]]

/-- `[0-9]|[1-9][0-9]|1[0-9][0-9]|2[0-4][0-9]|25[0-5]` -/
def octetPattern : Pattern CodeUnit :=
  .either (range '0' '9') <| .either (.sequence (range '1' '9') (range '0' '9')) <|
    .either (.sequence (symbol '1') (.sequence (range '0' '9') (range '0' '9'))) <|
    .either (.sequence (symbol '2') (.sequence (range '0' '4') (range '0' '9')))
      (.sequence (symbol '2') (.sequence (symbol '5') (range '0' '5')))

def separatorPattern : Pattern CodeUnit :=
  .either (.sequence (symbol '.') (.check fun rest => !lineEnds.contains rest))
    (.check fun rest => lineEnds.contains rest)

/-- `IPV4_PATTERN`, less the `^` and the `$` around it: the pattern takes the whole text. -/
def ipv4Pattern : Pattern CodeUnit := times 4 (.sequence octetPattern separatorPattern)

def validateIpv4Address (s : Text) : Bool := takes ipv4Pattern s

section Decimal

def decimal (number : Nat) : Text := (Nat.toDigits 10 number).map unit

def DottedQuad (text : Text) : Prop :=
  ∃ octets : List Nat, octets.length = 4 ∧ (∀ octet ∈ octets, octet < 256) ∧
    text = [unit '.'].intercalate (octets.map decimal)

end Decimal

section Octets

theorem within_digit {first last : Char} {element : CodeUnit}
    (inside : within first last element = true) (least : 48 ≤ first.toNat)
    (most : last.toNat ≤ 57) : ∃ digit < 10, first.toNat ≤ 48 + digit ∧ 48 + digit ≤ last.toNat ∧
      element = .ofNat (48 + digit) := by
  have bounds := (within_iff first last element).mp inside
  refine ⟨element.toNat - 48, by omega, by omega, by omega, ?_⟩
  rw [show 48 + (element.toNat - 48) = element.toNat by omega, UInt16.ofNat_toNat]

theorem decimal_one : ∀ a < 10, decimal a = [.ofNat (48 + a)] := by
  decide

theorem decimal_two : ∀ a < 10, ∀ b < 10, 1 ≤ a →
    decimal (10 * a + b) = [.ofNat (48 + a), .ofNat (48 + b)] := by
  decide +kernel

theorem decimal_three : ∀ a < 10, ∀ b < 10, ∀ c < 10, 1 ≤ a →
    decimal (100 * a + 10 * b + c) = [.ofNat (48 + a), .ofNat (48 + b), .ofNat (48 + c)] := by
  decide +kernel

theorem decimal_taken : ∀ octet < 256, takes octetPattern (decimal octet) = true := by
  decide +kernel

theorem octetPattern_iff (word : Text) :
    [] ∈ remainders octetPattern word ↔ ∃ octet < 256, word = decimal octet := by
  constructor
  · intro taken
    simp only [octetPattern, mem_either, mem_sequence, range, symbol, mem_one] at taken
    rcases taken with ⟨x, rfl, first⟩ | ⟨_, ⟨x, rfl, first⟩, y, rfl, second⟩ |
      ⟨_, ⟨x, rfl, first⟩, _, ⟨y, rfl, second⟩, z, rfl, third⟩ |
      ⟨_, ⟨x, rfl, first⟩, _, ⟨y, rfl, second⟩, z, rfl, third⟩ |
      ⟨_, ⟨x, rfl, first⟩, _, ⟨y, rfl, second⟩, z, rfl, third⟩
    · obtain ⟨a, small, _, _, rfl⟩ := within_digit first (by decide) (by decide)
      exact ⟨a, by omega, (decimal_one a small).symm⟩
    · obtain ⟨a, tens, least, _, rfl⟩ := within_digit first (by decide) (by decide)
      obtain ⟨b, ones, _, _, rfl⟩ := within_digit second (by decide) (by decide)
      rw [show '1'.toNat = 49 by rfl] at least
      exact ⟨10 * a + b, by omega, (decimal_two a tens b ones (by omega)).symm⟩
    all_goals
      obtain ⟨a, hundreds, aLeast, aMost, rfl⟩ := within_digit first (by decide) (by decide)
      obtain ⟨b, tens, bLeast, bMost, rfl⟩ := within_digit second (by decide) (by decide)
      obtain ⟨c, ones, _, cMost, rfl⟩ := within_digit third (by decide) (by decide)
      simp only [show '0'.toNat = 48 by rfl, show '1'.toNat = 49 by rfl,
        show '2'.toNat = 50 by rfl, show '4'.toNat = 52 by rfl, show '5'.toNat = 53 by rfl]
        at aLeast aMost bLeast bMost cMost
      exact ⟨100 * a + 10 * b + c, by omega,
        (decimal_three a hundreds b tens c ones (by omega)).symm⟩
  · rintro ⟨octet, small, rfl⟩
    exact (takes_iff _ _).mp (decimal_taken octet small)

theorem octet_taken (text rest : Text) : rest ∈ remainders octetPattern text ↔
    ∃ octet < 256, text = decimal octet ++ rest := by
  rw [mem_plain octetPattern (by simp [octetPattern, Plain, range, symbol])]
  constructor
  · rintro ⟨_, rfl, taken⟩
    obtain ⟨octet, small, rfl⟩ := (octetPattern_iff _).mp taken
    exact ⟨octet, small, rfl⟩
  · rintro ⟨octet, small, rfl⟩
    exact ⟨_, rfl, (octetPattern_iff _).mpr ⟨octet, small, rfl⟩⟩

theorem decimal_starts : ∀ octet < 256, (decimal octet).head?.any (within '0' '9') = true := by
  decide +kernel

end Octets

section Quads

theorem lineEnds_start : ∀ rest ∈ lineEnds, rest.head?.any (within '0' '9') = false := by
  decide

theorem octets_start (octets : List Nat) (some : octets ≠ [])
    (small : ∀ octet ∈ octets, octet < 256) :
    [unit '.'].intercalate (octets.map decimal) ∉ lineEnds := by
  obtain ⟨octet, rest, rfl⟩ := List.exists_cons_of_ne_nil some
  have starts := decimal_starts octet (small octet (.head _))
  intro ends
  have other := lineEnds_start _ ends
  cases written : decimal octet with
  | nil =>
      rw [written] at starts
      cases starts
  | cons digit more =>
      rw [written, List.head?_cons] at starts
      rw [List.map_cons, written, List.intercalate_cons_cons_left, List.head?_cons, starts] at other
      cases other

theorem dot_iff (element : CodeUnit) : within '.' '.' element = true ↔ element = unit '.' := by
  have dot : (unit '.').toNat = '.'.toNat := rfl
  rw [within_iff, ← UInt16.toNat_inj, dot]
  omega

theorem separated (text rest : Text) :
    rest ∈ remainders (.sequence octetPattern separatorPattern) text ↔ ∃ octet < 256,
      text = decimal octet ++ unit '.' :: rest ∧ rest ∉ lineEnds ∨
        text = decimal octet ++ rest ∧ rest ∈ lineEnds := by
  simp only [mem_sequence, octet_taken, separatorPattern, mem_either, symbol, mem_one, mem_check,
    dot_iff, Bool.not_eq_true', List.contains_iff_mem, ← Bool.not_eq_true]
  constructor
  · rintro ⟨_, ⟨octet, small, rfl⟩, ⟨_, ⟨_, rfl, rfl⟩, rfl, inside⟩ | ⟨rfl, ends⟩⟩
    · exact ⟨octet, small, .inl ⟨rfl, inside⟩⟩
    · exact ⟨octet, small, .inr ⟨rfl, ends⟩⟩
  · rintro ⟨octet, small, ⟨rfl, inside⟩ | ⟨rfl, ends⟩⟩
    · exact ⟨_, ⟨octet, small, rfl⟩, .inl ⟨rest, ⟨_, rfl, rfl⟩, rfl, inside⟩⟩
    · exact ⟨_, ⟨octet, small, rfl⟩, .inr ⟨rfl, ends⟩⟩

theorem octets_taken (count : Nat) (text : Text) :
    [] ∈ remainders (times (count + 1) (.sequence octetPattern separatorPattern)) text ↔
      ∃ octets : List Nat, octets.length = count + 1 ∧ (∀ octet ∈ octets, octet < 256) ∧
        text = [unit '.'].intercalate (octets.map decimal) := by
  induction count generalizing text with
  | zero =>
      rw [times, times, mem_sequence]
      constructor
      · rintro ⟨rest, taken, ended⟩
        obtain ⟨rfl, _⟩ := (mem_check _ _ _).mp ended
        obtain ⟨octet, small, ⟨_, inside⟩ | ⟨rfl, _⟩⟩ := (separated text []).mp taken
        · exact absurd (List.mem_cons_self) inside
        · refine ⟨[octet], rfl, by simpa using small, ?_⟩
          simp
      · rintro ⟨octets, one, small, rfl⟩
        obtain ⟨octet, rfl⟩ := List.length_eq_one_iff.mp one
        refine ⟨[], (separated _ _).mpr ⟨octet, small octet (.head _), .inr ⟨?_, ?_⟩⟩, ?_⟩
        · simp
        · exact List.mem_cons_self
        · exact (mem_check _ _ _).mpr ⟨rfl, rfl⟩
  | succ count ih =>
      rw [times, mem_sequence]
      constructor
      · rintro ⟨rest, taken, following⟩
        obtain ⟨octets, long, small, rfl⟩ := (ih rest).mp following
        have some : octets ≠ [] := List.ne_nil_of_length_eq_add_one long
        have inside := octets_start octets some small
        obtain ⟨octet, first, ⟨rfl, _⟩ | ⟨_, ends⟩⟩ := (separated text _).mp taken
        · refine ⟨octet :: octets, by rw [List.length_cons, long], ?_, ?_⟩
          · exact List.forall_mem_cons.mpr ⟨first, small⟩
          · rw [List.map_cons, List.intercalate_cons_of_ne_nil (by simpa using some)]
            simp
        · exact absurd ends inside
      · rintro ⟨octets, long, small, rfl⟩
        obtain ⟨octet, rest, rfl⟩ := List.exists_cons_of_length_eq_add_one long
        rw [List.length_cons, Nat.add_right_cancel_iff] at long
        have some : rest ≠ [] := List.ne_nil_of_length_eq_add_one long
        have others := (List.forall_mem_cons.mp small).2
        refine ⟨_, (separated _ _).mpr ⟨octet, small octet (.head _), .inl ⟨?_, ?_⟩⟩,
          (ih _).mpr ⟨rest, long, others, rfl⟩⟩
        · rw [List.map_cons, List.intercalate_cons_of_ne_nil (by simpa using some)]
          simp
        · exact octets_start rest some others

theorem validateIpv4Address_iff (text : Text) :
    validateIpv4Address text = true ↔ DottedQuad text :=
  (takes_iff _ _).trans (octets_taken 3 text)

end Quads

end Ptnet.Ipv4Text
