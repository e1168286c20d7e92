import Ptnet.Ipv4Text

/-!
`Utils.isValidIPv6`: a loop over the parts of the text between its colons.
-/

namespace Ptnet.Ipv6Text

open Ipv4Text KotlinText

/-- The digits of a number in `radix`, as the `Int` that the loop computes. -/
def parsedValue (radix : Nat) : Text → BitVec 32 → Option (BitVec 32)
  | [], value => some value
  | c :: rest, value =>
      match digitToIntOrNull c radix with
      | none => none
      | some d => parsedValue radix rest (value * .ofNat 32 radix + .ofNat 32 d)

def isParseable (s : Text) (pos stop radix maxLength : Nat) (allowLeadingZero : Bool)
    (minValue maxValue : Int) : Bool :=
  let length := stop - pos
  if length < 1 ∨ maxLength < length then false
  else
    let checkLeadingZero := decide (1 < length) && !allowLeadingZero
    let leading := (digitToIntOrNull (s.getD pos 0) radix).getD 0
    if checkLeadingZero && leading == 0 then false
    else
      match parsedValue radix (substring s pos stop) 0 with
      | none => false
      | some value => decide (minValue ≤ value.toInt) && decide (value.toInt ≤ maxValue)

def isParseableIPv6Segment (s : Text) (pos stop : Nat) : Bool :=
  isParseable s pos stop 16 4 true 0x0000 0xffff

structure Scan where
  segmentCount : Nat := 0
  doubleColonFound : Bool := false
  deriving DecidableEq, Repr

/-- One iteration, for the part in front of the colon at `stop`; nothing where it returns false. -/
def visit (temp : Text) (pos stop : Nat) (scan : Scan) : Option Scan :=
  if scan.segmentCount = 8 then none
  else if pos ≠ stop then
    let value := substring temp pos stop
    if stop = temp.length - 1 ∧ value.contains (unit '.') then
      -- The address covers two groups.
      if scan.segmentCount + 1 = 8 then none
      else if validateIpv4Address value then
        some { scan with segmentCount := scan.segmentCount + 2 }
      else none
    else if isParseableIPv6Segment temp pos stop then
      some { scan with segmentCount := scan.segmentCount + 1 }
    else none
  else if stop ≠ 1 ∧ stop ≠ temp.length - 1 ∧ scan.doubleColonFound then none
  else some { segmentCount := scan.segmentCount + 1, doubleColonFound := true }

/-- The loop, with as many iterations as the text may take. -/
def scanFrom (temp : Text) : Nat → Nat → Scan → Option Scan
  | 0, _, scan => some scan
  | fuel + 1, pos, scan =>
      if pos < temp.length then
        match indexOf temp (unit ':') pos with
        | none => some scan
        | some stop =>
            match visit temp pos stop scan with
            | none => none
            | some next => scanFrom temp fuel (stop + 1) next
      else some scan

def isValidIPv6 : Option Text → Bool
  | none => false
  | some [] => false
  | some (firstChar :: more) =>
      let address := firstChar :: more
      if firstChar ≠ unit ':' ∧ (digitToIntOrNull firstChar 16).isNone then false
      else
        let temp := address ++ [unit ':']
        match scanFrom temp temp.length 0 {} with
        | none => false
        | some scan => scan.segmentCount == 8 || scan.doubleColonFound

section Segments

def Wide (element : CodeUnit) : Prop := (digitToIntOrNull element 16).isSome = true

instance (element : CodeUnit) : Decidable (Wide element) := inferInstanceAs (Decidable (_ = true))

def Hextet (Digit : CodeUnit → Prop) (piece : Text) : Prop :=
  1 ≤ piece.length ∧ piece.length ≤ 4 ∧ ∀ element ∈ piece, Digit element

theorem parsed_wide (text : Text) (value result : BitVec 32)
    (parsed : parsedValue 16 text value = some result) : ∀ element ∈ text, Wide element := by
  induction text generalizing value with
  | nil => exact fun _ none => by cases none
  | cons first rest ih =>
      unfold parsedValue at parsed
      split at parsed
      next => cases parsed
      next d read =>
          refine List.forall_mem_cons.mpr ⟨?_, ih _ parsed⟩
          rw [Wide, read]
          rfl

theorem wide_parsed (text : Text) (value : BitVec 32) (before : Nat)
    (small : value.toNat < 16 ^ before) (few : before + text.length ≤ 4)
    (wide : ∀ element ∈ text, Wide element) : ∃ result, parsedValue 16 text value = some result ∧
      result.toNat < 16 ^ (before + text.length) := by
  induction text generalizing value before with
  | nil => exact ⟨value, rfl, small⟩
  | cons first rest ih =>
      rw [List.length_cons] at few ⊢
      obtain ⟨own, others⟩ := List.forall_mem_cons.mp wide
      obtain ⟨d, read⟩ := Option.isSome_iff_exists.mp own
      have digit := digit_lt first 16 d read
      have bound : 16 ^ (before + 1) ≤ 16 ^ 4 := Nat.pow_le_pow_right (by decide) (by omega)
      rw [pow_succ] at bound
      have next : (value * .ofNat 32 16 + .ofNat 32 d).toNat = value.toNat * 16 + d := by
        rw [BitVec.toNat_add, BitVec.toNat_mul, BitVec.toNat_ofNat, BitVec.toNat_ofNat]
        omega
      have grown : (value * .ofNat 32 16 + .ofNat 32 d).toNat < 16 ^ (before + 1) := by
        rw [next, pow_succ]
        omega
      obtain ⟨result, parsed, inside⟩ := ih _ (before + 1) grown (by omega) others
      rw [parsedValue, read]
      exact ⟨result, parsed, by rwa [show before + (rest.length + 1) = before + 1 + rest.length by
        omega]⟩

theorem segment_iff (before part after : Text) :
    isParseableIPv6Segment (before ++ part ++ after) before.length (before.length + part.length) =
      true ↔ Hextet Wide part := by
  have length : before.length + part.length - before.length = part.length :=
    Nat.add_sub_cancel_left _ _
  have lead : (decide (1 < part.length) && !true) = false := Bool.and_false _
  simp only [isParseableIPv6Segment, isParseable, substring_eq, length, lead, Bool.false_and,
    Bool.false_eq_true, if_false]
  constructor
  · intro accepted
    split at accepted
    next => cases accepted
    next room =>
        split at accepted
        next => cases accepted
        next value parsed => exact ⟨by omega, by omega, parsed_wide part 0 value parsed⟩
  · rintro ⟨nonempty, few, wide⟩
    obtain ⟨result, parsed, small⟩ := wide_parsed part 0 0 (by decide) (by omega) wide
    have bound : 16 ^ (0 + part.length) ≤ 16 ^ 4 := Nat.pow_le_pow_right (by decide) (by omega)
    have value : result.toInt = result.toNat := BitVec.toInt_eq_toNat_of_lt (by omega)
    rw [if_neg (by omega), parsed]
    show (decide (0 ≤ result.toInt) && decide (result.toInt ≤ 65535)) = true
    rw [value, Bool.and_eq_true, decide_eq_true_iff, decide_eq_true_iff]
    omega

end Segments

section Parts

def Tail (piece : Text) : Prop := piece.contains (unit '.') = true ∧ DottedQuad piece

/-- What a part may be, by the number of groups before it, whether an empty one was found, and
    whether it ends at the second character of the text; `next` is what the loop has after it. -/
inductive Visited : Scan → Bool → Bool → Text → Scan → Prop where
  | group {scan : Scan} {second last : Bool} {piece : Text} (group : Hextet Wide piece) :
      Visited scan second last piece { scan with segmentCount := scan.segmentCount + 1 }
  | tail {scan : Scan} {second : Bool} {piece : Text} (tail : Tail piece)
      (room : scan.segmentCount + 1 ≠ 8) :
      Visited scan second true piece { scan with segmentCount := scan.segmentCount + 2 }
  | empty {scan : Scan} {second last : Bool}
      (first : second = true ∨ last = true ∨ scan.doubleColonFound = false) :
      Visited scan second last []
        { segmentCount := scan.segmentCount + 1, doubleColonFound := true }

theorem group_dotless (piece : Text) (group : Hextet Wide piece) :
    piece.contains (unit '.') = false := by
  have dot : ¬Wide (unit '.') := by decide
  rw [Bool.eq_false_iff, ne_eq, List.contains_iff_mem]
  exact fun member => dot (group.2.2 _ member)

theorem stop_iff (before part after : Text) : before.length + part.length =
    (before ++ part ++ unit ':' :: after).length - 1 ↔ after.isEmpty = true := by
  rw [List.length_append, List.length_append, List.length_cons, List.isEmpty_iff_length_eq_zero]
  omega

section Kinds

variable (scan next : Scan) (second last : Bool) (part : Text)

theorem visited_blank : Visited scan second last [] next ↔
    (second = true ∨ last = true ∨ scan.doubleColonFound = false) ∧
      next = { segmentCount := scan.segmentCount + 1, doubleColonFound := true } := by
  constructor
  · intro visited
    cases visited with
    | group group => exact absurd group.1 (by decide)
    | tail tail => exact absurd tail.1 (by decide)
    | empty first => exact ⟨first, rfl⟩
  · rintro ⟨first, rfl⟩
    exact .empty first

theorem visited_dotted (dotted : part.contains (unit '.') = true) :
    Visited scan second true part next ↔ DottedQuad part ∧ scan.segmentCount + 1 ≠ 8 ∧
      next = { scan with segmentCount := scan.segmentCount + 2 } := by
  constructor
  · intro visited
    cases visited with
    | group group =>
        rw [group_dotless part group] at dotted
        cases dotted
    | tail tail room => exact ⟨tail.2, room, rfl⟩
    | empty => cases dotted
  · rintro ⟨quad, room, rfl⟩
    exact .tail ⟨dotted, quad⟩ room

theorem visited_plain (nonempty : part ≠ [])
    (plain : ¬(last = true ∧ part.contains (unit '.') = true)) :
    Visited scan second last part next ↔ Hextet Wide part ∧
      next = { scan with segmentCount := scan.segmentCount + 1 } := by
  constructor
  · intro visited
    cases visited with
    | group group => exact ⟨group, rfl⟩
    | tail tail => exact absurd ⟨rfl, tail.1⟩ plain
    | empty => exact absurd rfl nonempty
  · rintro ⟨group, rfl⟩
    exact .group group

end Kinds

theorem visit_iff (before part after : Text) (scan next : Scan) :
    visit (before ++ part ++ unit ':' :: after) before.length (before.length + part.length) scan =
        some next ↔
      scan.segmentCount ≠ 8 ∧ Visited scan (decide (before.length + part.length = 1))
        after.isEmpty part next := by
  have value := substring_eq before part (unit ':' :: after)
  have segment := segment_iff before part (unit ':' :: after)
  have last := stop_iff before part after
  have same : before.length = before.length + part.length ↔ part = [] := by
    rw [← List.length_eq_zero_iff]
    omega
  have quad := validateIpv4Address_iff part
  unfold visit
  simp only [value, last, ne_eq, same]
  generalize after.isEmpty = final
  generalize before.length + part.length = stop at segment ⊢
  by_cases full : scan.segmentCount = 8
  · rw [if_pos full]
    exact iff_of_false (by rintro ⟨⟩) fun visited => visited.1 full
  rw [if_neg full, and_iff_right full]
  by_cases blank : part = []
  · subst blank
    rw [if_neg (not_not_intro rfl), visited_blank, decide_eq_true_iff]
    -- The branch that returns false is the negation of the disjunction.
    by_cases first : stop = 1 ∨ final = true ∨ scan.doubleColonFound = false
    · rw [if_neg (by rintro ⟨later, inner, found⟩; simp [later, inner, found] at first),
        Option.some_inj, and_iff_right first]
      exact eq_comm
    · rw [if_pos (by simpa [not_or] using first)]
      exact iff_of_false (by rintro ⟨⟩) fun visited => first visited.1
  rw [if_pos blank]
  by_cases tail : final = true ∧ part.contains (unit '.') = true
  · obtain ⟨rfl, dotted⟩ := tail
    rw [if_pos ⟨rfl, dotted⟩, visited_dotted scan next _ part dotted, ← quad]
    by_cases room : scan.segmentCount + 1 = 8
    · rw [if_pos room]
      exact iff_of_false (by rintro ⟨⟩) fun visited => visited.2.1 room
    · by_cases valid : validateIpv4Address part = true
      · rw [if_neg room, if_pos valid, Option.some_inj, and_iff_right valid, and_iff_right room]
        exact eq_comm
      · rw [if_neg room, if_neg valid]
        exact iff_of_false (by rintro ⟨⟩) fun visited => valid visited.1
  · rw [if_neg tail, visited_plain scan next _ final part blank tail, ← segment]
    split
    next valid =>
        rw [Option.some_inj, and_iff_right valid]
        exact eq_comm
    next invalid => exact iff_of_false (by rintro ⟨⟩) fun visited => invalid visited.1

/-- The loop over the parts, the first of which starts at a position of the text. -/
inductive Walks : Nat → Scan → List Text → Scan → Prop where
  | done {start : Nat} {scan : Scan} : Walks start scan [] scan
  | next {start : Nat} {scan middle final : Scan} {part : Text} {rest : List Text}
      (room : scan.segmentCount ≠ 8)
      (visited : Visited scan (decide (start + part.length = 1)) rest.isEmpty part middle)
      (walks : Walks (start + part.length + 1) middle rest final) :
      Walks start scan (part :: rest) final

theorem walks_cons (start : Nat) (scan final : Scan) (part : Text) (rest : List Text) :
    Walks start scan (part :: rest) final ↔ scan.segmentCount ≠ 8 ∧ ∃ middle,
      Visited scan (decide (start + part.length = 1)) rest.isEmpty part middle ∧
        Walks (start + part.length + 1) middle rest final := by
  constructor
  · intro walks
    cases walks with
    | next room visited walks => exact ⟨room, _, visited, walks⟩
  · rintro ⟨room, middle, visited, walks⟩
    exact .next room visited walks

theorem walks_nil (start : Nat) (scan final : Scan) :
    Walks start scan [] final ↔ scan = final := by
  constructor
  · intro walks
    cases walks
    rfl
  · rintro rfl
    exact .done

def joined (parts : List Text) : Text := [unit ':'].intercalate parts

theorem joined_cons (part : Text) (rest : List Text) (some : rest ≠ []) :
    joined (part :: rest) = part ++ unit ':' :: joined rest := by
  rw [joined, List.intercalate_cons_of_ne_nil some, List.append_assoc]
  rfl

theorem scanFrom_end (temp : Text) (fuel : Nat) (scan : Scan) :
    scanFrom temp fuel temp.length scan = some scan := by
  cases fuel with
  | zero => rfl
  | succ fuel => rw [scanFrom, if_neg (Nat.lt_irrefl _)]

theorem scanFrom_next (before part after : Text) (absent : unit ':' ∉ part) (fuel : Nat)
    (scan final : Scan) :
    scanFrom (before ++ part ++ unit ':' :: after) (fuel + 1) before.length scan = some final ↔
      scan.segmentCount ≠ 8 ∧ ∃ middle, Visited scan
        (decide (before.length + part.length = 1)) after.isEmpty part middle ∧
        scanFrom (before ++ part ++ unit ':' :: after) fuel (before.length + part.length + 1)
          middle = some final := by
  have inside : before.length < (before ++ part ++ unit ':' :: after).length := by
    rw [List.length_append, List.length_append, List.length_cons]
    omega
  have visited := fun next => visit_iff before part after scan next
  rw [scanFrom, if_pos inside, indexOf_eq before after (unit ':') absent]
  dsimp only
  cases step : visit (before ++ part ++ unit ':' :: after) before.length
      (before.length + part.length) scan with
  | none =>
      refine iff_of_false (by rintro ⟨⟩) ?_
      rintro ⟨room, middle, stepped, _⟩
      rw [(visited middle).mpr ⟨room, stepped⟩] at step
      cases step
  | some next =>
      obtain ⟨room, stepped⟩ := (visited next).mp step
      constructor
      · exact fun walks => ⟨room, next, stepped, walks⟩
      · rintro ⟨_, middle, other, walks⟩
        rw [(visited middle).mpr ⟨room, other⟩] at step
        cases step
        exact walks

/-- The loop runs over the parts of the text. -/
theorem scanFrom_iff (parts : List Text) (some : parts ≠ [])
    (clear : ∀ part ∈ parts, unit ':' ∉ part) (before : Text) (fuel : Nat)
    (enough : parts.length ≤ fuel) (scan final : Scan) :
    scanFrom (before ++ (joined parts ++ [unit ':'])) fuel before.length scan = .some final ↔
      Walks before.length scan parts final := by
  induction parts generalizing before fuel scan with
  | nil => exact absurd rfl some
  | cons part rest ih =>
      obtain ⟨own, others⟩ := List.forall_mem_cons.mp clear
      obtain ⟨fuel, rfl⟩ : ∃ less, fuel = less + 1 :=
        ⟨fuel - 1, by rw [List.length_cons] at enough; omega⟩
      rw [List.length_cons, Nat.add_le_add_iff_right] at enough
      rw [walks_cons]
      cases rest with
      | nil =>
          have whole : before ++ (joined [part] ++ [unit ':']) =
              before ++ part ++ unit ':' :: [] := by
            rw [joined, List.intercalate_singleton, List.append_assoc]
          have finish :
              before.length + part.length + 1 = (before ++ part ++ [unit ':']).length := by
            rw [List.length_append, List.length_append, List.length_singleton]
          rw [whole, scanFrom_next before part [] own, finish]
          simp only [scanFrom_end, walks_nil, Option.some_inj]
          rfl
      | cons second more =>
          have whole : before ++ (joined (part :: second :: more) ++ [unit ':']) =
              before ++ part ++ unit ':' :: (joined (second :: more) ++ [unit ':']) := by
            rw [joined_cons part _ (List.cons_ne_nil _ _)]
            simp
          have following : (joined (second :: more) ++ [unit ':']).isEmpty = false := by
            rw [List.isEmpty_eq_false_iff]
            exact List.append_ne_nil_of_right_ne_nil _ (List.cons_ne_nil _ _)
          have shift : before ++ part ++ unit ':' :: (joined (second :: more) ++ [unit ':']) =
              (before ++ part ++ [unit ':']) ++ (joined (second :: more) ++ [unit ':']) := by
            simp
          have start : before.length + part.length + 1 = (before ++ part ++ [unit ':']).length := by
            rw [List.length_append, List.length_append, List.length_singleton]
          rw [whole, scanFrom_next before part _ own, following, shift, start]
          simp only [ih (List.cons_ne_nil _ _) others _ fuel enough]
          rfl

theorem exists_parts (text : Text) : ∃ parts, parts ≠ [] ∧ (∀ part ∈ parts, unit ':' ∉ part) ∧
    text = joined parts := by
  induction text with
  | nil => exact ⟨[[]], List.cons_ne_nil _ _, by simp, rfl⟩
  | cons first rest ih =>
      obtain ⟨parts, some, clear, rfl⟩ := ih
      by_cases colon : first = unit ':'
      · refine ⟨[] :: parts, List.cons_ne_nil _ _, ?_, ?_⟩
        · exact List.forall_mem_cons.mpr ⟨List.not_mem_nil, clear⟩
        · rw [joined_cons [] parts some, colon]
          rfl
      · obtain ⟨part, others, rfl⟩ := List.exists_cons_of_ne_nil some
        obtain ⟨own, later⟩ := List.forall_mem_cons.mp clear
        refine ⟨(first :: part) :: others, List.cons_ne_nil _ _, ?_, ?_⟩
        · exact List.forall_mem_cons.mpr ⟨List.not_mem_cons_of_ne_of_not_mem (Ne.symm colon) own,
            later⟩
        · rw [joined, joined, List.intercalate_cons_cons_left]

theorem parts_length (parts : List Text) : parts.length ≤ (joined parts).length + 1 := by
  induction parts with
  | nil => exact Nat.zero_le _
  | cons part rest ih =>
      by_cases none : rest = []
      · subst none
        exact Nat.le_add_left _ _
      · rw [joined_cons part rest none, List.length_cons, List.length_append, List.length_cons]
        omega

/-- The loop ends well. -/
def Accepts (start : Nat) (scan : Scan) (parts : List Text) : Prop :=
  ∃ final, Walks start scan parts final ∧
    (final.segmentCount = 8 ∨ final.doubleColonFound = true)

theorem figure_wide : ∀ code < 58, 48 ≤ code → Wide (.ofNat code) := by
  decide

theorem quad_start (piece : Text) (quad : DottedQuad piece) :
    ∃ first rest, piece = first :: rest ∧ Wide first := by
  obtain ⟨octets, four, small, rfl⟩ := quad
  obtain ⟨octet, others, rfl⟩ := List.exists_cons_of_length_eq_add_one four
  have starts := decimal_starts octet (small octet (.head _))
  cases written : decimal octet with
  | nil =>
      rw [written] at starts
      cases starts
  | cons digit more =>
      rw [written, List.head?_cons, Option.any_some] at starts
      obtain ⟨value, ten, _, _, rfl⟩ := within_digit starts (by decide) (by decide)
      exact ⟨_, _, by rw [List.map_cons, written, List.intercalate_cons_cons_left],
        figure_wide _ (by omega) (by omega)⟩

theorem accepted_start (first : CodeUnit) (more : Text) (parts : List Text)
    (whole : first :: more = joined parts) (some : parts ≠ [])
    (accepts : Accepts 0 {} parts) : first = unit ':' ∨ Wide first := by
  obtain ⟨part, rest, rfl⟩ := List.exists_cons_of_ne_nil some
  obtain ⟨final, walks, _⟩ := accepts
  obtain ⟨_, middle, visited, _⟩ := (walks_cons _ _ _ _ _).mp walks
  have shape : ∀ head others, part = head :: others → first = head := by
    rintro head others rfl
    rw [joined, List.intercalate_cons_cons_left] at whole
    exact (List.cons.inj whole).1
  generalize rest.isEmpty = last at visited
  cases visited with
  | group group =>
      cases part with
      | nil => exact absurd group.1 (by decide)
      | cons head others =>
          rw [shape head others rfl]
          exact .inr (group.2.2 head (.head _))
  | tail tail =>
      obtain ⟨head, others, rfl, wide⟩ := quad_start part tail.2
      rw [shape head others rfl]
      exact .inr wide
  | empty =>
      by_cases none : rest = []
      · subst none
        cases whole
      · rw [joined_cons [] rest none] at whole
        exact .inl (List.cons.inj whole).1

theorem isValidIPv6_joined (parts : List Text) (some : parts ≠ [])
    (clear : ∀ part ∈ parts, unit ':' ∉ part) (text : joined parts ≠ []) :
    isValidIPv6 (.some (joined parts)) = true ↔ Accepts 0 {} parts := by
  have enough := parts_length parts
  have walked := scanFrom_iff parts some clear [] ((joined parts).length + 1) enough {}
  obtain ⟨first, more, whole⟩ := List.exists_cons_of_ne_nil text
  have start := accepted_start first more parts whole.symm some
  rw [List.nil_append, List.length_nil, whole] at walked
  rw [whole, isValidIPv6]
  dsimp only
  constructor
  · intro valid
    split at valid
    next => cases valid
    next =>
        rw [List.length_append, List.length_singleton] at valid
        split at valid
        next => cases valid
        next final ended =>
            refine ⟨final, (walked final).mp ended, ?_⟩
            rwa [Bool.or_eq_true, beq_iff_eq] at valid
  · intro accepts
    have passed : ¬(first ≠ unit ':' ∧ (digitToIntOrNull first 16).isNone = true) := by
      rintro ⟨other, none⟩
      rcases start accepts with colon | wide
      · exact other colon
      · rw [Wide, ← Option.not_isNone, none] at wide
        cases wide
    obtain ⟨final, walks, good⟩ := accepts
    rw [if_neg passed, List.length_append, List.length_singleton, (walked final).mpr walks]
    show (final.segmentCount == 8 || final.doubleColonFound) = true
    rwa [Bool.or_eq_true, beq_iff_eq]

end Parts

end Ptnet.Ipv6Text
