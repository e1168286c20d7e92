import Ptnet.Ipv6Text

/-!
The text forms of RFC 4291, section 2.2, and the texts that `isValidIPv6` accepts: it takes digits
of other scripts, it takes lone colons at the ends, and it refuses `::` at an end where that stands
for one group.
-/

namespace Ptnet.Ipv6Grammar

open Ipv4Text Ipv6Text KotlinText

section Grammar

def HexDigit (element : CodeUnit) : Prop :=
  (within '0' '9' element || within 'a' 'f' element || within 'A' 'F' element) = true

instance (element : CodeUnit) : Decidable (HexDigit element) :=
  inferInstanceAs (Decidable (_ = true))

variable (Digit : CodeUnit → Prop)

def Groups (pieces : List Text) : Prop := ∀ piece ∈ pieces, Hextet Digit piece

/-- Groups, in the end perhaps a dotted quad for two of them, and how many groups they are. -/
inductive Pieces : List Text → Nat → Prop where
  | none : Pieces [] 0
  | group {piece : Text} {rest : List Text} {weight : Nat} (group : Hextet Digit piece)
      (pieces : Pieces rest weight) : Pieces (piece :: rest) (weight + 1)
  | quad {piece : Text} (quad : DottedQuad piece) : Pieces [piece] 2

def colon : Text := [unit ':']

def colons : Text := [unit ':', unit ':']

/-- Eight groups, or fewer with `::` for the others. -/
inductive Address : Text → Prop where
  | full {pieces : List Text} (eight : Pieces Digit pieces 8) : Address (joined pieces)
  | compressed {left right : List Text} {weight : Nat} (groups : Groups Digit left)
      (pieces : Pieces Digit right weight) (few : left.length + weight ≤ 7) :
      Address (joined left ++ colons ++ joined right)

/-- Seven groups and `::` at an end. -/
inductive Crowded : Text → Prop where
  | front {right : List Text} (seven : Pieces Digit right 7) : Crowded (colons ++ joined right)
  | back {left : List Text} (groups : Groups Digit left) (seven : left.length = 7) :
      Crowded (joined left ++ colons)

/-- A lone colon at the start, at the end, or at both; or at the end of a text with `::`. -/
inductive Dangling : Text → Prop where
  | front {pieces : List Text} {weight : Nat} (ends : Pieces Digit pieces weight)
      (few : weight ≤ 7) : Dangling (colon ++ joined pieces)
  | back {pieces : List Text} (groups : Groups Digit pieces) (nonempty : pieces ≠ [])
      (few : pieces.length ≤ 7) : Dangling (joined pieces ++ colon)
  | both {pieces : List Text} (groups : Groups Digit pieces) (nonempty : pieces ≠ [])
      (few : pieces.length ≤ 6) : Dangling (colon ++ joined pieces ++ colon)
  | after {left right : List Text} (groups : Groups Digit left) (others : Groups Digit right)
      (nonempty : right ≠ []) (few : left.length + right.length ≤ if left = [] then 5 else 6) :
      Dangling (joined left ++ colons ++ joined right ++ colon)

end Grammar

section Forms

/-- The parts behind the first empty one, after `count` parts. -/
def Ending (count : Nat) (rest : List Text) : Prop :=
  (∃ weight, Pieces Wide rest weight ∧ count + weight ≤ 8) ∨
    ∃ front, rest = front ++ [[]] ∧ Groups Wide front ∧ count + front.length + 1 ≤ 8

/-- The parts after `count` groups. -/
def Opening (count : Nat) (rest : List Text) : Prop :=
  (∃ weight, Pieces Wide rest weight ∧ count + weight = 8) ∨
    (∃ front, rest = front ++ [[]] ∧ Groups Wide front ∧ count + front.length + 1 ≤ 8) ∨
    ∃ front more, rest = front ++ [] :: more ∧ more ≠ [] ∧ Groups Wide front ∧
      Ending (count + front.length + 1) more

theorem group_nonempty {Digit : CodeUnit → Prop} (piece : Text) (group : Hextet Digit piece) :
    piece ≠ [] := by
  rintro rfl
  exact absurd group.1 (by decide)

theorem pieces_cons {Digit : CodeUnit → Prop} (part : Text) (rest : List Text) (weight : Nat)
    (nonempty : rest ≠ []) : Pieces Digit (part :: rest) weight ↔
      Hextet Digit part ∧ ∃ less, Pieces Digit rest less ∧ weight = less + 1 := by
  constructor
  · intro pieces
    cases pieces with
    | group group pieces => exact ⟨group, _, pieces, rfl⟩
    | quad => exact absurd rfl nonempty
  · rintro ⟨group, less, pieces, rfl⟩
    exact .group group pieces

theorem pieces_last {Digit : CodeUnit → Prop} (part : Text) (weight : Nat) :
    Pieces Digit [part] weight ↔
      Hextet Digit part ∧ weight = 1 ∨ DottedQuad part ∧ weight = 2 := by
  constructor
  · intro pieces
    cases pieces with
    | group group pieces =>
        cases pieces
        exact .inl ⟨group, rfl⟩
    | quad quad => exact .inr ⟨quad, rfl⟩
  · rintro (⟨group, rfl⟩ | ⟨quad, rfl⟩)
    · exact .group group .none
    · exact .quad quad

theorem groups_cons {Digit : CodeUnit → Prop} (part : Text) (rest : List Text) :
    Groups Digit (part :: rest) ↔ Hextet Digit part ∧ Groups Digit rest :=
  List.forall_mem_cons

theorem groups_nil {Digit : CodeUnit → Prop} : Groups Digit [] := List.forall_mem_nil _

theorem ending_cons (count : Nat) (part : Text) (rest : List Text) (nonempty : rest ≠ []) :
    Ending count (part :: rest) ↔ Hextet Wide part ∧ Ending (count + 1) rest := by
  constructor
  · rintro (⟨weight, pieces, few⟩ | ⟨front, whole, groups, few⟩)
    · obtain ⟨group, less, later, rfl⟩ := (pieces_cons part rest weight nonempty).mp pieces
      exact ⟨group, .inl ⟨less, later, by omega⟩⟩
    · rcases List.cons_eq_append_iff.mp whole with ⟨rfl, same⟩ | ⟨others, rfl, rfl⟩
      · exact absurd (List.cons.inj same).2.symm nonempty
      · obtain ⟨group, groups⟩ := (groups_cons part others).mp groups
        rw [List.length_cons] at few
        exact ⟨group, .inr ⟨others, rfl, groups, by omega⟩⟩
  · rintro ⟨group, ⟨weight, pieces, few⟩ | ⟨front, rfl, groups, few⟩⟩
    · exact .inl ⟨weight + 1, .group group pieces, by omega⟩
    · refine .inr ⟨part :: front, rfl, (groups_cons part front).mpr ⟨group, groups⟩, ?_⟩
      rw [List.length_cons]
      omega

theorem ending_last (count : Nat) (part : Text) : Ending count [part] ↔
    Hextet Wide part ∧ count + 1 ≤ 8 ∨ DottedQuad part ∧ count + 2 ≤ 8 ∨
      part = [] ∧ count + 1 ≤ 8 := by
  constructor
  · rintro (⟨weight, pieces, few⟩ | ⟨front, whole, _, few⟩)
    · rcases (pieces_last part weight).mp pieces with ⟨group, rfl⟩ | ⟨quad, rfl⟩
      · exact .inl ⟨group, few⟩
      · exact .inr (.inl ⟨quad, few⟩)
    · rcases List.cons_eq_append_iff.mp whole with ⟨rfl, same⟩ | ⟨others, rfl, wrong⟩
      · exact .inr (.inr ⟨(List.cons.inj same).1.symm, few⟩)
      · exact absurd wrong.symm (List.append_ne_nil_of_right_ne_nil _ (List.cons_ne_nil _ _))
  · rintro (⟨group, few⟩ | ⟨quad, few⟩ | ⟨rfl, few⟩)
    · exact .inl ⟨1, (pieces_last part 1).mpr (.inl ⟨group, rfl⟩), few⟩
    · exact .inl ⟨2, .quad quad, few⟩
    · exact .inr ⟨[], rfl, groups_nil, few⟩

theorem opening_cons (count : Nat) (part : Text) (rest : List Text) (nonempty : rest ≠ []) :
    Opening count (part :: rest) ↔
      Hextet Wide part ∧ Opening (count + 1) rest ∨ part = [] ∧ Ending (count + 1) rest := by
  constructor
  · rintro (⟨weight, pieces, eight⟩ | ⟨front, whole, groups, few⟩ |
      ⟨front, more, whole, some, groups, ending⟩)
    · obtain ⟨group, less, later, rfl⟩ := (pieces_cons part rest weight nonempty).mp pieces
      exact .inl ⟨group, .inl ⟨less, later, by omega⟩⟩
    · rcases List.cons_eq_append_iff.mp whole with ⟨rfl, same⟩ | ⟨others, rfl, rfl⟩
      · exact absurd (List.cons.inj same).2.symm nonempty
      · obtain ⟨group, later⟩ := (groups_cons part others).mp groups
        rw [List.length_cons] at few
        exact .inl ⟨group, .inr (.inl ⟨others, rfl, later, by omega⟩)⟩
    · rcases List.cons_eq_append_iff.mp whole with ⟨rfl, same⟩ | ⟨others, rfl, rfl⟩
      · obtain ⟨blank, following⟩ := List.cons.inj same
        rw [following, List.length_nil, Nat.add_zero] at ending
        exact .inr ⟨blank.symm, ending⟩
      · obtain ⟨group, later⟩ := (groups_cons part others).mp groups
        rw [List.length_cons, show count + (others.length + 1) = count + 1 + others.length by
          omega] at ending
        exact .inl ⟨group, .inr (.inr ⟨others, more, rfl, some, later, ending⟩)⟩
  · rintro (⟨group, ⟨weight, pieces, eight⟩ | ⟨front, rfl, groups, few⟩ |
      ⟨front, more, rfl, some, groups, ending⟩⟩ | ⟨rfl, ending⟩)
    · exact .inl ⟨weight + 1, .group group pieces, by omega⟩
    · refine .inr (.inl ⟨part :: front, rfl, (groups_cons part front).mpr ⟨group, groups⟩, ?_⟩)
      rw [List.length_cons]
      omega
    · refine .inr (.inr ⟨part :: front, more, rfl, some,
        (groups_cons part front).mpr ⟨group, groups⟩, ?_⟩)
      rwa [List.length_cons, show count + (front.length + 1) = count + 1 + front.length by omega]
    · exact .inr (.inr ⟨[], rest, rfl, nonempty, groups_nil, ending⟩)

theorem opening_last (count : Nat) (part : Text) : Opening count [part] ↔
    Hextet Wide part ∧ count + 1 = 8 ∨ DottedQuad part ∧ count + 2 = 8 ∨
      part = [] ∧ count + 1 ≤ 8 := by
  constructor
  · rintro (⟨weight, pieces, eight⟩ | ⟨front, whole, _, few⟩ | ⟨front, more, whole, some, _⟩)
    · rcases (pieces_last part weight).mp pieces with ⟨group, rfl⟩ | ⟨quad, rfl⟩
      · exact .inl ⟨group, eight⟩
      · exact .inr (.inl ⟨quad, eight⟩)
    · rcases List.cons_eq_append_iff.mp whole with ⟨rfl, same⟩ | ⟨others, rfl, wrong⟩
      · exact .inr (.inr ⟨(List.cons.inj same).1.symm, few⟩)
      · exact absurd wrong.symm (List.append_ne_nil_of_right_ne_nil _ (List.cons_ne_nil _ _))
    · rcases List.cons_eq_append_iff.mp whole with ⟨rfl, same⟩ | ⟨others, rfl, wrong⟩
      · exact absurd (List.cons.inj same).2 some
      · exact absurd wrong.symm (List.append_ne_nil_of_right_ne_nil _ (List.cons_ne_nil _ _))
  · rintro (⟨group, eight⟩ | ⟨quad, eight⟩ | ⟨rfl, few⟩)
    · exact .inl ⟨1, (pieces_last part 1).mpr (.inl ⟨group, rfl⟩), eight⟩
    · exact .inl ⟨2, .quad quad, eight⟩
    · exact .inr (.inl ⟨[], rfl, groups_nil, few⟩)

theorem ending_le (count : Nat) (rest : List Text) (ending : Ending count rest) : count ≤ 8 := by
  rcases ending with ⟨weight, _, few⟩ | ⟨front, _, _, few⟩ <;> omega

theorem opening_le (count : Nat) (rest : List Text) (opening : Opening count rest) :
    count ≤ 8 := by
  rcases opening with ⟨weight, _, eight⟩ | ⟨front, _, _, few⟩ | ⟨front, more, _, _, _, ending⟩
  · omega
  · omega
  · have room := ending_le _ _ ending
    omega

end Forms

section Walking

theorem accepts_cons (start : Nat) (scan : Scan) (part : Text) (rest : List Text) :
    Accepts start scan (part :: rest) ↔ scan.segmentCount ≠ 8 ∧ ∃ middle,
      Visited scan (decide (start + part.length = 1)) rest.isEmpty part middle ∧
        Accepts (start + part.length + 1) middle rest := by
  simp only [Accepts, walks_cons]
  constructor
  · rintro ⟨final, ⟨room, middle, visited, walks⟩, good⟩
    exact ⟨room, middle, visited, final, walks, good⟩
  · rintro ⟨room, middle, visited, final, walks, good⟩
    exact ⟨final, ⟨room, middle, visited, walks⟩, good⟩

theorem accepts_nil (start : Nat) (scan : Scan) :
    Accepts start scan [] ↔ scan.segmentCount = 8 ∨ scan.doubleColonFound = true := by
  simp only [Accepts, walks_nil]
  constructor
  · rintro ⟨_, rfl, good⟩
    exact good
  · exact fun good => ⟨scan, rfl, good⟩

theorem quad_dotted (piece : Text) (quad : DottedQuad piece) : Tail piece := by
  refine ⟨?_, quad⟩
  obtain ⟨octets, four, _, rfl⟩ := quad
  obtain ⟨octet, others, rfl⟩ := List.exists_cons_of_length_eq_add_one four
  rw [List.length_cons, Nat.add_right_cancel_iff] at four
  have some : others.map decimal ≠ [] := by
    rw [ne_eq, List.map_eq_nil_iff]
    exact List.ne_nil_of_length_eq_add_one four
  rw [List.contains_iff_mem, List.map_cons, List.intercalate_cons_of_ne_nil some]
  simp

theorem visited_last (scan next : Scan) (second : Bool) (part : Text) :
    Visited scan second true part next ↔
      Hextet Wide part ∧ next = { scan with segmentCount := scan.segmentCount + 1 } ∨
        DottedQuad part ∧ scan.segmentCount + 1 ≠ 8 ∧
          next = { scan with segmentCount := scan.segmentCount + 2 } ∨
        part = [] ∧ next = { segmentCount := scan.segmentCount + 1, doubleColonFound := true } := by
  constructor
  · intro visited
    cases visited with
    | group group => exact .inl ⟨group, rfl⟩
    | tail tail room => exact .inr (.inl ⟨tail.2, room, rfl⟩)
    | empty => exact .inr (.inr ⟨rfl, rfl⟩)
  · rintro (⟨group, rfl⟩ | ⟨quad, room, rfl⟩ | ⟨rfl, rfl⟩)
    · exact .group group
    · exact .tail (quad_dotted part quad) room
    · exact .empty (.inr (.inl rfl))

theorem visited_inner (scan next : Scan) (second : Bool) (part : Text) :
    Visited scan second false part next ↔
      Hextet Wide part ∧ next = { scan with segmentCount := scan.segmentCount + 1 } ∨
        part = [] ∧ (second = true ∨ scan.doubleColonFound = false) ∧
          next = { segmentCount := scan.segmentCount + 1, doubleColonFound := true } := by
  constructor
  · intro visited
    cases visited with
    | group group => exact .inl ⟨group, rfl⟩
    | empty first =>
        rcases first with second | wrong | unseen
        · exact .inr ⟨rfl, .inl second, rfl⟩
        · cases wrong
        · exact .inr ⟨rfl, .inr unseen, rfl⟩
  · rintro (⟨group, rfl⟩ | ⟨rfl, first | first, rfl⟩)
    · exact .group group
    · exact .empty (.inl first)
    · exact .empty (.inr (.inr first))

theorem accepts_ending (rest : List Text) (nonempty : rest ≠ []) (start : Nat) (later : 2 ≤ start)
    (count : Nat) (few : count ≤ 8) :
    Accepts start ⟨count, true⟩ rest ↔ Ending count rest := by
  induction rest generalizing start count with
  | nil => exact absurd rfl nonempty
  | cons part rest ih =>
      rw [accepts_cons]
      cases rest with
      | nil =>
          rw [ending_last]
          simp only [List.isEmpty_nil, visited_last, accepts_nil]
          constructor
          · rintro ⟨room, middle, ⟨group, rfl⟩ | ⟨quad, other, rfl⟩ | ⟨rfl, rfl⟩, _⟩
            · exact .inl ⟨group, by omega⟩
            · exact .inr (.inl ⟨quad, by omega⟩)
            · exact .inr (.inr ⟨rfl, by omega⟩)
          · rintro (⟨group, fits⟩ | ⟨quad, fits⟩ | ⟨rfl, fits⟩)
            · exact ⟨by omega, _, .inl ⟨group, rfl⟩, .inr rfl⟩
            · exact ⟨by omega, _, .inr (.inl ⟨quad, by omega, rfl⟩), .inr rfl⟩
            · exact ⟨by omega, _, .inr (.inr ⟨rfl, rfl⟩), .inr rfl⟩
      | cons second more =>
          have some : second :: more ≠ [] := List.cons_ne_nil _ _
          rw [ending_cons count part _ some]
          simp only [List.isEmpty_cons, visited_inner]
          constructor
          · rintro ⟨room, middle, ⟨group, rfl⟩ | ⟨rfl, first | first, rfl⟩, accepts⟩
            · exact ⟨group, (ih some _ (by omega) _ (by omega)).mp accepts⟩
            · exact absurd (of_decide_eq_true first) (by rw [List.length_nil]; omega)
            · cases first
          · rintro ⟨group, ending⟩
            have room : count + 1 ≤ 8 := ending_le _ _ ending
            exact ⟨by omega, _, .inl ⟨group, rfl⟩,
              (ih some _ (by omega) _ room).mpr ending⟩

theorem accepts_opening (rest : List Text) (nonempty : rest ≠ []) (start : Nat) (later : 1 ≤ start)
    (count : Nat) (few : count ≤ 8) :
    Accepts start ⟨count, false⟩ rest ↔ Opening count rest := by
  induction rest generalizing start count with
  | nil => exact absurd rfl nonempty
  | cons part rest ih =>
      rw [accepts_cons]
      cases rest with
      | nil =>
          rw [opening_last]
          simp only [List.isEmpty_nil, visited_last, accepts_nil]
          constructor
          · rintro ⟨room, middle, ⟨group, rfl⟩ | ⟨quad, other, rfl⟩ | ⟨rfl, rfl⟩, eight | wrong⟩
            · exact .inl ⟨group, eight⟩
            · cases wrong
            · exact .inr (.inl ⟨quad, eight⟩)
            · cases wrong
            · exact .inr (.inr ⟨rfl, by omega⟩)
            · exact .inr (.inr ⟨rfl, by omega⟩)
          · rintro (⟨group, eight⟩ | ⟨quad, eight⟩ | ⟨rfl, fits⟩)
            · exact ⟨by omega, _, .inl ⟨group, rfl⟩, .inl eight⟩
            · exact ⟨by omega, _, .inr (.inl ⟨quad, by omega, rfl⟩), .inl eight⟩
            · exact ⟨by omega, _, .inr (.inr ⟨rfl, rfl⟩), .inr rfl⟩
      | cons second more =>
          have some : second :: more ≠ [] := List.cons_ne_nil _ _
          rw [opening_cons count part _ some]
          simp only [List.isEmpty_cons, visited_inner]
          constructor
          · rintro ⟨room, middle, ⟨group, rfl⟩ | ⟨rfl, _, rfl⟩, accepts⟩
            · exact .inl ⟨group, (ih some _ (by omega) _ (by omega)).mp accepts⟩
            · exact .inr ⟨rfl, (accepts_ending _ some _ (by omega) _ (by omega)).mp accepts⟩
          · rintro (⟨group, opening⟩ | ⟨rfl, ending⟩)
            · have room : count + 1 ≤ 8 := opening_le _ _ opening
              exact ⟨by omega, _, .inl ⟨group, rfl⟩,
                (ih some _ (by omega) _ room).mpr opening⟩
            · have room : count + 1 ≤ 8 := ending_le _ _ ending
              exact ⟨by omega, _, .inr ⟨rfl, .inr trivial, rfl⟩,
                (accepts_ending _ some _ (by omega) _ room).mpr ending⟩

/-- Behind an empty part at the start of the text another one may follow. -/
theorem accepts_second (rest : List Text) (nonempty : rest ≠ []) :
    Accepts 1 ⟨1, true⟩ rest ↔
      Ending 1 rest ∨ ∃ more, rest = [] :: more ∧ more ≠ [] ∧ Ending 2 more := by
  obtain ⟨part, rest, rfl⟩ := List.exists_cons_of_ne_nil nonempty
  rw [accepts_cons]
  cases rest with
  | nil =>
      have none : ¬∃ more : List Text, [part] = [] :: more ∧ more ≠ [] ∧ Ending 2 more := by
        rintro ⟨more, whole, some, _⟩
        exact some (List.cons.inj whole).2.symm
      rw [ending_last, or_iff_left none]
      simp only [List.isEmpty_nil, visited_last, accepts_nil]
      constructor
      · rintro ⟨_, middle, ⟨group, rfl⟩ | ⟨quad, _, rfl⟩ | ⟨rfl, rfl⟩, _⟩
        · exact .inl ⟨group, by decide⟩
        · exact .inr (.inl ⟨quad, by decide⟩)
        · exact .inr (.inr ⟨rfl, by decide⟩)
      · rintro (⟨group, _⟩ | ⟨quad, _⟩ | ⟨rfl, _⟩)
        · exact ⟨by decide, _, .inl ⟨group, rfl⟩, .inr rfl⟩
        · exact ⟨by decide, _, .inr (.inl ⟨quad, by decide, rfl⟩), .inr rfl⟩
        · exact ⟨by decide, _, .inr (.inr ⟨rfl, rfl⟩), .inr rfl⟩
  | cons second more =>
      have some : second :: more ≠ [] := List.cons_ne_nil _ _
      rw [ending_cons 1 part _ some]
      simp only [List.isEmpty_cons, visited_inner]
      constructor
      · rintro ⟨_, middle, ⟨group, rfl⟩ | ⟨rfl, _, rfl⟩, accepts⟩
        · have long := group.1
          exact .inl ⟨group, (accepts_ending _ some _ (by omega) 2 (by decide)).mp accepts⟩
        · exact .inr ⟨_, rfl, some, (accepts_ending _ some _ (by decide) 2 (by decide)).mp accepts⟩
      · rintro (⟨group, ending⟩ | ⟨_, whole, _, ending⟩)
        · have long := group.1
          exact ⟨by decide, _, .inl ⟨group, rfl⟩,
            (accepts_ending _ some _ (by omega) 2 (by decide)).mpr ending⟩
        · obtain ⟨rfl, rfl⟩ := List.cons.inj whole
          exact ⟨by decide, _, .inr ⟨rfl, .inl rfl, rfl⟩,
            (accepts_ending _ some _ (by decide) 2 (by decide)).mpr ending⟩

theorem accepts_first (part : Text) (rest : List Text) (text : joined (part :: rest) ≠ []) :
    Accepts 0 {} (part :: rest) ↔ rest ≠ [] ∧ (Hextet Wide part ∧ Opening 1 rest ∨
      part = [] ∧ (Ending 1 rest ∨ ∃ more, rest = [] :: more ∧ more ≠ [] ∧ Ending 2 more)) := by
  rw [accepts_cons]
  cases rest with
  | nil =>
      simp only [List.isEmpty_nil, visited_last, accepts_nil]
      constructor
      · rintro ⟨_, middle, ⟨_, rfl⟩ | ⟨_, _, rfl⟩ | ⟨rfl, rfl⟩, wrong | wrong⟩
        · cases wrong
        · cases wrong
        · cases wrong
        · cases wrong
        · cases wrong
        · exact absurd rfl text
      · rintro ⟨wrong, _⟩
        exact absurd rfl wrong
  | cons second more =>
      have some : second :: more ≠ [] := List.cons_ne_nil _ _
      simp only [List.isEmpty_cons, visited_inner]
      constructor
      · rintro ⟨_, middle, ⟨group, rfl⟩ | ⟨rfl, _, rfl⟩, accepts⟩
        · have long := group.1
          exact ⟨some, .inl ⟨group,
            (accepts_opening _ some _ (by omega) 1 (by decide)).mp accepts⟩⟩
        · exact ⟨some, .inr ⟨rfl, (accepts_second _ some).mp accepts⟩⟩
      · rintro ⟨_, ⟨group, opening⟩ | ⟨rfl, ending⟩⟩
        · have long := group.1
          exact ⟨by decide, _, .inl ⟨group, rfl⟩,
            (accepts_opening _ some _ (by omega) 1 (by decide)).mpr opening⟩
        · exact ⟨by decide, _, .inr ⟨rfl, .inr trivial, rfl⟩, (accepts_second _ some).mpr ending⟩

end Walking

section Texts

theorem joined_singleton (part : Text) : joined [part] = part := List.intercalate_singleton

theorem joined_append (front back : List Text) (some : front ≠ []) (others : back ≠ []) :
    joined (front ++ back) = joined front ++ colon ++ joined back := by
  induction front with
  | nil => exact absurd rfl some
  | cons part rest ih =>
      cases rest with
      | nil =>
          rw [List.singleton_append, joined_cons part back others, joined_singleton,
            List.append_assoc]
          rfl
      | cons second more =>
          have nonempty : second :: more ≠ [] := List.cons_ne_nil _ _
          rw [List.cons_append, joined_cons part _ (List.append_ne_nil_of_left_ne_nil nonempty _),
            ih nonempty, joined_cons part _ nonempty]
          simp

theorem joined_blank (more : List Text) (some : more ≠ []) :
    joined ([] :: more) = colon ++ joined more :=
  joined_append [[]] more (List.cons_ne_nil _ _) some

theorem joined_double (front more : List Text) (some : front ≠ []) (others : more ≠ []) :
    joined (front ++ [] :: more) = joined front ++ colons ++ joined more := by
  rw [joined_append front _ some (List.cons_ne_nil _ _), joined_blank more others]
  simp [colon, colons]

theorem joined_lone (front : List Text) (some : front ≠ []) :
    joined (front ++ [[]]) = joined front ++ colon := by
  rw [joined_append front _ some (List.cons_ne_nil _ _), joined_singleton, List.append_nil]

theorem pieces_nonempty {Digit : CodeUnit → Prop} (pieces : List Text) (weight : Nat)
    (counted : Pieces Digit pieces weight) (positive : weight ≠ 0) : pieces ≠ [] := by
  rintro rfl
  cases counted
  exact positive rfl

theorem joined_start (more : List Text) (others : more ≠ []) :
    joined ([] :: [] :: more) = joined [] ++ colons ++ joined more := by
  rw [joined_blank _ (List.cons_ne_nil _ _), joined_blank more others]
  rfl

theorem opening_forms (part : Text) (rest : List Text) (group : Hextet Wide part)
    (opening : Opening 1 rest) :
    Address Wide (joined (part :: rest)) ∨ Dangling Wide (joined (part :: rest)) := by
  rcases opening with ⟨weight, pieces, eight⟩ | ⟨front, rfl, groups, few⟩ |
    ⟨front, more, rfl, others, groups, ending⟩
  · have whole : Pieces Wide (part :: rest) (weight + 1) := .group group pieces
    rw [show weight + 1 = 8 by omega] at whole
    exact .inl (.full whole)
  · have whole : Groups Wide (part :: front) := (groups_cons part front).mpr ⟨group, groups⟩
    rw [← List.cons_append, joined_lone _ (List.cons_ne_nil _ _)]
    refine .inr (.back whole (List.cons_ne_nil _ _) ?_)
    rw [List.length_cons]
    omega
  · have whole : Groups Wide (part :: front) := (groups_cons part front).mpr ⟨group, groups⟩
    rw [← List.cons_append, joined_double _ _ (List.cons_ne_nil _ _) others]
    rcases ending with ⟨weight, pieces, few⟩ | ⟨back, rfl, later, few⟩
    · refine .inl (.compressed whole pieces ?_)
      rw [List.length_cons]
      omega
    · by_cases none : back = []
      · subst none
        have form : Address Wide (joined (part :: front) ++ colons ++ joined []) :=
          .compressed whole .none (by
            rw [List.length_nil] at few
            rw [List.length_cons]
            omega)
        exact .inl form
      · rw [joined_lone back none, ← List.append_assoc]
        refine .inr (.after whole later none ?_)
        rw [if_neg (List.cons_ne_nil _ _), List.length_cons]
        omega

theorem blank_forms (rest : List Text) (nonempty : rest ≠ []) (ending : Ending 1 rest) :
    Dangling Wide (joined ([] :: rest)) := by
  rw [joined_blank rest nonempty]
  rcases ending with ⟨weight, pieces, few⟩ | ⟨back, rfl, later, few⟩
  · exact .front pieces (by omega)
  · by_cases none : back = []
    · subst none
      have form : Dangling Wide (colon ++ joined []) := .front .none (by decide)
      exact form
    · rw [joined_lone back none, ← List.append_assoc]
      exact .both later none (by omega)

theorem start_forms (more : List Text) (others : more ≠ []) (ending : Ending 2 more) :
    Address Wide (joined ([] :: [] :: more)) ∨ Dangling Wide (joined ([] :: [] :: more)) := by
  rw [joined_start more others]
  rcases ending with ⟨weight, pieces, few⟩ | ⟨back, rfl, later, few⟩
  · exact .inl (.compressed groups_nil pieces (by rw [List.length_nil]; omega))
  · by_cases none : back = []
    · subst none
      have form : Address Wide (joined [] ++ colons ++ joined []) :=
        .compressed groups_nil .none (by decide)
      exact .inl form
    · rw [joined_lone back none, ← List.append_assoc]
      exact .inr (.after groups_nil later none (by rw [if_pos rfl, List.length_nil]; omega))

/-- What the loop accepts is an address or has a lone colon at an end. -/
theorem accepted_forms (parts : List Text) (text : joined parts ≠ [])
    (accepts : Accepts 0 {} parts) :
    Address Wide (joined parts) ∨ Dangling Wide (joined parts) := by
  have some : parts ≠ [] := by
    rintro rfl
    exact text rfl
  obtain ⟨part, rest, rfl⟩ := List.exists_cons_of_ne_nil some
  -- The first part is a group, or it is empty and alone, or it is empty and so is the second.
  obtain ⟨nonempty, ⟨group, opening⟩ | ⟨rfl, ending | ⟨more, rfl, others, ending⟩⟩⟩ :=
    (accepts_first part rest text).mp accepts
  · exact opening_forms part rest group opening
  · exact .inr (blank_forms rest nonempty ending)
  · exact start_forms more others ending

end Texts

section Accepted

theorem decimal_figures : ∀ octet < 256, (decimal octet).all (within '0' '9') = true := by
  decide +kernel

theorem mem_separated (separator element : CodeUnit) (parts : List Text)
    (member : element ∈ [separator].intercalate parts) :
    element = separator ∨ ∃ part ∈ parts, element ∈ part := by
  induction parts with
  | nil => cases member
  | cons part rest ih =>
      by_cases none : rest = []
      · subst none
        rw [List.intercalate_singleton] at member
        exact .inr ⟨part, .head _, member⟩
      · rw [List.intercalate_cons_of_ne_nil none, List.mem_append, List.mem_append,
          List.mem_singleton] at member
        rcases member with (own | same) | later
        · exact .inr ⟨part, .head _, own⟩
        · exact .inl same
        · rcases ih later with same | ⟨other, among, inside⟩
          · exact .inl same
          · exact .inr ⟨other, .tail _ among, inside⟩

theorem quad_elements (piece : Text) (quad : DottedQuad piece) (element : CodeUnit)
    (member : element ∈ piece) : element = unit '.' ∨ within '0' '9' element = true := by
  obtain ⟨octets, _, small, rfl⟩ := quad
  rcases mem_separated _ _ _ member with dot | ⟨_, among, inside⟩
  · exact .inl dot
  · obtain ⟨octet, here, rfl⟩ := List.mem_map.mp among
    exact .inr (List.all_eq_true.mp (decimal_figures octet (small octet here)) element inside)

def Proper (piece : Text) : Prop := piece ≠ [] ∧ unit ':' ∉ piece

theorem group_proper (piece : Text) (group : Hextet Wide piece) : Proper piece := by
  have other : ¬Wide (unit ':') := by decide
  exact ⟨group_nonempty piece group, fun member => other (group.2.2 _ member)⟩

theorem quad_proper (piece : Text) (quad : DottedQuad piece) : Proper piece := by
  obtain ⟨first, rest, rfl, _⟩ := quad_start piece quad
  refine ⟨List.cons_ne_nil _ _, fun member => ?_⟩
  rcases quad_elements _ quad _ member with dot | figure
  · exact absurd dot (by decide)
  · exact absurd figure (by decide)

theorem pieces_proper (pieces : List Text) (weight : Nat) (counted : Pieces Wide pieces weight) :
    ∀ piece ∈ pieces, Proper piece := by
  induction counted with
  | none => exact fun _ none => by cases none
  | group group _ ih => exact List.forall_mem_cons.mpr ⟨group_proper _ group, ih⟩
  | quad quad => exact List.forall_mem_singleton.mpr (quad_proper _ quad)

theorem groups_proper (pieces : List Text) (groups : Groups Wide pieces) :
    ∀ piece ∈ pieces, Proper piece := fun piece member => group_proper piece (groups piece member)

def Parts (parts : List Text) : Prop := ∀ piece ∈ parts, piece = [] ∨ Proper piece

theorem joined_nonempty (part : Text) (rest : List Text) (some : rest ≠ []) :
    joined (part :: rest) ≠ [] := by
  rw [joined_cons part rest some]
  exact List.append_ne_nil_of_right_ne_nil _ (List.cons_ne_nil _ _)

theorem valid_iff (part : Text) (rest : List Text) (some : rest ≠ [])
    (proper : Parts (part :: rest)) :
    isValidIPv6 (.some (joined (part :: rest))) = true ↔ Hextet Wide part ∧ Opening 1 rest ∨
      part = [] ∧ (Ending 1 rest ∨ ∃ more, rest = [] :: more ∧ more ≠ [] ∧ Ending 2 more) := by
  have text := joined_nonempty part rest some
  rw [isValidIPv6_joined _ (List.cons_ne_nil _ _) ?_ text, accepts_first part rest text]
  · exact and_iff_right some
  · intro piece member
    rcases proper piece member with rfl | clear
    · exact List.not_mem_nil
    · exact clear.2

theorem groups_parts (pieces : List Text) (groups : Groups Wide pieces) : Parts pieces :=
  fun piece member => .inr (group_proper piece (groups piece member))

theorem pieces_parts (pieces : List Text) (weight : Nat) (counted : Pieces Wide pieces weight) :
    Parts pieces :=
  fun piece member => .inr (pieces_proper pieces weight counted piece member)

theorem append_parts (front back : List Text) (first : Parts front) (second : Parts back) :
    Parts (front ++ back) := List.forall_mem_append.mpr ⟨first, second⟩

theorem blank_parts (back : List Text) (parts : Parts back) : Parts ([] :: back) :=
  List.forall_mem_cons.mpr ⟨.inl rfl, parts⟩

theorem double_valid (front more : List Text) (some : front ≠ []) (groups : Groups Wide front)
    (others : more ≠ []) (parts : Parts more)
    (ending : Ending (front.length + 1) more) :
    isValidIPv6 (.some (joined front ++ colons ++ joined more)) = true := by
  have whole := append_parts front ([] :: more) (groups_parts front groups) (blank_parts more parts)
  rw [← joined_double front more some others]
  obtain ⟨part, rest, rfl⟩ := List.exists_cons_of_ne_nil some
  obtain ⟨group, later⟩ := (groups_cons part rest).mp groups
  rw [List.length_cons, Nat.add_comm rest.length 1] at ending
  rw [List.cons_append] at whole ⊢
  refine (valid_iff part _ ?_ whole).mpr (.inl ⟨group, ?_⟩)
  · exact List.append_ne_nil_of_right_ne_nil _ (List.cons_ne_nil _ _)
  · exact .inr (.inr ⟨rest, more, rfl, others, later, ending⟩)

theorem start_valid (more : List Text) (others : more ≠ [])
    (parts : Parts more) (ending : Ending 2 more) :
    isValidIPv6 (some (joined [] ++ colons ++ joined more)) = true := by
  rw [← joined_start more others]
  exact (valid_iff [] _ (List.cons_ne_nil _ _) (blank_parts _ (blank_parts more parts))).mpr
    (.inr ⟨rfl, .inr ⟨more, rfl, others, ending⟩⟩)

theorem blank_valid (more : List Text) (others : more ≠ [])
    (parts : Parts more) (ending : Ending 1 more) :
    isValidIPv6 (some (colon ++ joined more)) = true := by
  rw [← joined_blank more others]
  exact (valid_iff [] more others (blank_parts more parts)).mpr (.inr ⟨rfl, .inl ending⟩)

theorem lone_ending (count : Nat) (front : List Text) (groups : Groups Wide front)
    (few : count + front.length + 1 ≤ 8) : Ending count (front ++ [[]]) :=
  .inr ⟨front, rfl, groups, few⟩

theorem lone_parts (front : List Text) (groups : Groups Wide front) : Parts (front ++ [[]]) :=
  append_parts front [[]] (groups_parts front groups) (blank_parts [] (List.forall_mem_nil _))

theorem lone_nonempty (front : List Text) : front ++ [[]] ≠ ([] : List Text) :=
  List.append_ne_nil_of_right_ne_nil _ (List.cons_ne_nil _ _)

theorem dangling_valid (text : Text) (dangling : Dangling Wide text) :
    isValidIPv6 (some text) = true := by
  cases dangling with
  | @front pieces weight counted few =>
      by_cases none : pieces = []
      · subst none
        decide
      · exact blank_valid pieces none (pieces_parts pieces weight counted)
          (.inl ⟨weight, counted, by omega⟩)
  | @back pieces groups nonempty few =>
      have whole := lone_parts pieces groups
      rw [← joined_lone pieces nonempty]
      obtain ⟨part, rest, rfl⟩ := List.exists_cons_of_ne_nil nonempty
      obtain ⟨group, later⟩ := (groups_cons part rest).mp groups
      rw [List.length_cons] at few
      rw [List.cons_append] at whole ⊢
      exact (valid_iff part _ (lone_nonempty rest) whole).mpr
        (.inl ⟨group, .inr (.inl ⟨rest, rfl, later, by omega⟩)⟩)
  | @both pieces groups nonempty few =>
      rw [List.append_assoc, ← joined_lone pieces nonempty]
      exact blank_valid _ (lone_nonempty pieces) (lone_parts pieces groups)
        (lone_ending 1 pieces groups (by omega))
  | @after left right groups others nonempty few =>
      rw [List.append_assoc, ← joined_lone right nonempty]
      by_cases none : left = []
      · subst none
        rw [if_pos rfl, List.length_nil] at few
        exact start_valid _ (lone_nonempty right) (lone_parts right others)
          (lone_ending 2 right others (by omega))
      · rw [if_neg none] at few
        exact double_valid left _ none groups (lone_nonempty right) (lone_parts right others)
          (lone_ending _ right others (by omega))

theorem full_valid (pieces : List Text) (eight : Pieces Wide pieces 8) :
    isValidIPv6 (some (joined pieces)) = true := by
  have proper := pieces_parts pieces 8 eight
  obtain ⟨part, rest, rfl⟩ :=
    List.exists_cons_of_ne_nil (pieces_nonempty pieces 8 eight (by decide))
  by_cases single : rest = []
  · subst single
    rcases (pieces_last part 8).mp eight with ⟨_, wrong⟩ | ⟨_, wrong⟩ <;> cases wrong
  · obtain ⟨group, less, later, count⟩ := (pieces_cons part rest 8 single).mp eight
    exact (valid_iff part rest single proper).mpr (.inl ⟨group, .inl ⟨less, later, by omega⟩⟩)

theorem address_valid (text : Text) (address : Address Wide text)
    (roomy : ¬Crowded Wide text) : isValidIPv6 (some text) = true := by
  cases address with
  | @full pieces eight => exact full_valid pieces eight
  | @compressed left right weight groups pieces few =>
      by_cases first : left = []
      · subst first
        rw [List.length_nil] at few
        by_cases last : right = []
        · subst last
          decide
        · have short : weight ≠ 7 := by
            rintro rfl
            exact roomy (.front pieces)
          exact start_valid right last (pieces_parts right weight pieces)
            (.inl ⟨weight, pieces, by omega⟩)
      · by_cases last : right = []
        · subst last
          have short : left.length ≠ 7 := by
            intro seven
            have crowded := Crowded.back groups seven
            rw [← List.append_nil (joined left ++ colons)] at crowded
            exact roomy crowded
          exact double_valid left [[]] first groups (List.cons_ne_nil _ _)
            (lone_parts [] groups_nil)
            (lone_ending _ [] groups_nil (by rw [List.length_nil]; omega))
        · exact double_valid left right first groups last (pieces_parts right weight pieces)
            (.inl ⟨weight, pieces, by omega⟩)

theorem pieces_length {Digit : CodeUnit → Prop} (pieces : List Text) (weight : Nat)
    (counted : Pieces Digit pieces weight) : pieces.length ≤ weight := by
  induction counted with
  | none => exact Nat.le_refl _
  | group _ _ ih => exact Nat.succ_le_succ ih
  | quad => exact Nat.le_succ 1

theorem ending_length (count : Nat) (rest : List Text) (ending : Ending count rest) :
    count + rest.length ≤ 8 := by
  rcases ending with ⟨weight, pieces, few⟩ | ⟨front, rfl, _, few⟩
  · have long := pieces_length rest weight pieces
    omega
  · rwa [List.length_append, List.length_singleton, ← Nat.add_assoc]

theorem opening_length (count : Nat) (rest : List Text) (opening : Opening count rest) :
    count + rest.length ≤ 8 := by
  rcases opening with ⟨weight, pieces, eight⟩ | ⟨front, rfl, _, few⟩ |
    ⟨front, more, rfl, _, _, ending⟩
  · have long := pieces_length rest weight pieces
    omega
  · rwa [List.length_append, List.length_singleton, ← Nat.add_assoc]
  · have long := ending_length _ _ ending
    rw [List.length_append, List.length_cons]
    omega

theorem weight_unique (pieces : List Text) (weight other : Nat)
    (counted : Pieces Wide pieces weight) (again : Pieces Wide pieces other) : weight = other := by
  have apart : ∀ piece, Hextet Wide piece → DottedQuad piece → False := by
    intro piece group quad
    have dotted := (quad_dotted piece quad).1
    rw [group_dotless piece group] at dotted
    cases dotted
  induction counted generalizing other with
  | none =>
      cases again
      rfl
  | group group _ ih =>
      cases again with
      | group _ later => rw [ih _ later]
      | quad quad => exact (apart _ group quad).elim
  | quad quad =>
      cases again with
      | group group _ => exact (apart _ group quad).elim
      | quad => rfl

theorem crowded_refused (text : Text) (crowded : Crowded Wide text) :
    ¬isValidIPv6 (some text) = true := by
  have blank : ¬Hextet Wide [] := fun group => group_nonempty [] group rfl
  cases crowded with
  | @front right seven =>
      have some := pieces_nonempty right 7 seven (by decide)
      have parts := pieces_parts right 7 seven
      have double : joined ([] :: [] :: right) = colons ++ joined right := joined_start right some
      rw [← double, valid_iff [] _ (List.cons_ne_nil _ _) (blank_parts _ (blank_parts right parts)),
        ending_cons 1 [] right some]
      rintro (⟨group, _⟩ | ⟨_, ⟨group, _⟩ | ⟨more, whole, _, ending⟩⟩)
      · exact blank group
      · exact blank group
      · obtain rfl := (List.cons.inj whole).2
        rcases ending with ⟨weight, pieces, few⟩ | ⟨front, rfl, _, _⟩
        · have same := weight_unique right 7 weight seven pieces
          omega
        · exact (pieces_proper _ 7 seven [] (by simp)).1 rfl
  | @back left groups seven =>
      have some : left ≠ [] := List.ne_nil_of_length_eq_add_one seven
      have parts := append_parts left [[], []] (groups_parts left groups)
        (blank_parts _ (blank_parts [] (List.forall_mem_nil _)))
      have double : joined (left ++ [[], []]) = joined left ++ colons := by
        rw [joined_double left [[]] some (List.cons_ne_nil _ _), joined_singleton, List.append_nil]
      obtain ⟨part, rest, rfl⟩ := List.exists_cons_of_ne_nil some
      rw [← double]
      rw [List.cons_append] at parts ⊢
      rw [valid_iff part _ (List.append_ne_nil_of_right_ne_nil _ (List.cons_ne_nil _ _)) parts]
      rintro (⟨_, opening⟩ | ⟨rfl, _⟩)
      · have long := opening_length 1 _ opening
        rw [List.length_append, List.length_cons, List.length_singleton] at long
        rw [List.length_cons] at seven
        omega
      · exact blank (groups [] (.head _))

end Accepted

section LoneColons

/-- A colon that no other follows. -/
def Alone (text : Text) : Prop :=
  ∃ rest, text = unit ':' :: rest ∧ rest.head? ≠ some (unit ':')

theorem alone_other (first : CodeUnit) (rest : Text) (other : first ≠ unit ':') :
    ¬Alone (first :: rest) := by
  rintro ⟨_, whole, _⟩
  exact other (List.cons.inj whole).1

theorem alone_colons (rest : Text) : ¬Alone (colons ++ rest) := by
  rintro ⟨_, whole, lone⟩
  rw [← (List.cons.inj whole).2] at lone
  exact lone rfl

theorem joined_first (pieces : List Text) (some : pieces ≠ [])
    (proper : ∀ piece ∈ pieces, Proper piece) :
    ∃ first rest, joined pieces = first :: rest ∧ first ≠ unit ':' := by
  obtain ⟨piece, rest, rfl⟩ := List.exists_cons_of_ne_nil some
  obtain ⟨nonempty, clear⟩ := proper piece (.head _)
  obtain ⟨first, others, rfl⟩ := List.exists_cons_of_ne_nil nonempty
  refine ⟨first, _, List.intercalate_cons_cons_left, ?_⟩
  rintro rfl
  exact clear (.head _)

theorem joined_last (pieces : List Text) (some : pieces ≠ [])
    (proper : ∀ piece ∈ pieces, Proper piece) :
    ∃ last rest, (joined pieces).reverse = last :: rest ∧ last ≠ unit ':' := by
  obtain ⟨front, piece, rfl⟩ := (List.eq_nil_or_concat' pieces).resolve_left some
  obtain ⟨nonempty, clear⟩ := proper piece (by simp)
  obtain ⟨others, last, rfl⟩ := (List.eq_nil_or_concat' piece).resolve_left nonempty
  have other : last ≠ unit ':' := by
    rintro rfl
    exact clear (by simp)
  by_cases none : front = []
  · subst none
    refine ⟨last, others.reverse, ?_, other⟩
    rw [List.nil_append, joined_singleton]
    simp
  · refine ⟨last, others.reverse ++ (joined front ++ colon).reverse, ?_, other⟩
    rw [joined_append front _ none (List.cons_ne_nil _ _), joined_singleton]
    simp

theorem alone_first (pieces : List Text) (some : pieces ≠ [])
    (proper : ∀ piece ∈ pieces, Proper piece) (after : Text) : ¬Alone (joined pieces ++ after) := by
  obtain ⟨first, rest, whole, other⟩ := joined_first pieces some proper
  rw [whole]
  exact alone_other first _ other

theorem alone_last (pieces : List Text) (some : pieces ≠ [])
    (proper : ∀ piece ∈ pieces, Proper piece) (before : Text) :
    ¬Alone (before ++ joined pieces).reverse := by
  obtain ⟨last, rest, whole, other⟩ := joined_last pieces some proper
  rw [List.reverse_append, whole]
  exact alone_other last _ other

theorem address_alone (text : Text) (address : Address Wide text) :
    ¬Alone text ∧ ¬Alone text.reverse := by
  cases address with
  | @full pieces eight =>
      have some := pieces_nonempty pieces 8 eight (by decide)
      have proper := pieces_proper pieces 8 eight
      refine ⟨?_, alone_last pieces some proper []⟩
      rw [← List.append_nil (joined pieces)]
      exact alone_first pieces some proper []
  | @compressed left right weight groups pieces few =>
      constructor
      · rw [List.append_assoc]
        by_cases none : left = []
        · subst none
          exact alone_colons _
        · exact alone_first left none (groups_proper left groups) _
      · by_cases none : right = []
        · subst none
          have turned : (joined left ++ colons ++ joined []).reverse =
              colons ++ (joined left).reverse := by
            simp [joined, colons]
          rw [turned]
          exact alone_colons _
        · exact alone_last right none (pieces_proper right weight pieces) _

theorem alone_colon (rest : Text) (other : rest.head? ≠ some (unit ':')) :
    Alone (colon ++ rest) := ⟨rest, rfl, other⟩

theorem colon_first (pieces : List Text) (some : pieces ≠ [])
    (proper : ∀ piece ∈ pieces, Proper piece) (after : Text) :
    Alone (colon ++ (joined pieces ++ after)) := by
  obtain ⟨first, rest, whole, other⟩ := joined_first pieces some proper
  apply alone_colon
  rw [whole, List.cons_append, List.head?_cons]
  exact fun same => other (Option.some.inj same)

theorem colon_last (pieces : List Text) (some : pieces ≠ [])
    (proper : ∀ piece ∈ pieces, Proper piece) (before : Text) :
    Alone (before ++ joined pieces ++ colon).reverse := by
  obtain ⟨last, rest, whole, other⟩ := joined_last pieces some proper
  rw [List.reverse_append, List.reverse_append, whole]
  apply alone_colon
  rw [List.cons_append, List.head?_cons]
  exact fun same => other (Option.some.inj same)

theorem dangling_alone (text : Text) (dangling : Dangling Wide text) :
    Alone text ∨ Alone text.reverse := by
  cases dangling with
  | @front pieces weight counted few =>
      refine .inl ?_
      by_cases none : pieces = []
      · subst none
        exact alone_colon [] (by decide)
      · rw [← List.append_nil (joined pieces)]
        exact colon_first pieces none (pieces_proper pieces weight counted) []
  | @back pieces groups nonempty few =>
      exact .inr (colon_last pieces nonempty (groups_proper pieces groups) [])
  | @both pieces groups nonempty few =>
      rw [List.append_assoc]
      exact .inl (colon_first pieces nonempty (groups_proper pieces groups) colon)
  | @after left right groups others nonempty few =>
      exact .inr (colon_last right nonempty (groups_proper right others) _)

theorem dangling_refused (text : Text) (dangling : Dangling Wide text) : ¬Address Wide text := by
  intro address
  obtain ⟨first, last⟩ := address_alone text address
  rcases dangling_alone text dangling with lone | lone
  · exact first lone
  · exact last lone

end LoneColons

section Digits

variable {Digit Other : CodeUnit → Prop}

theorem group_digits (piece : Text) (group : Hextet Digit piece)
    (same : ∀ element ∈ piece, Digit element → Other element) : Hextet Other piece :=
  ⟨group.1, group.2.1, fun element member => same element member (group.2.2 element member)⟩

theorem joined_member (part : Text) (parts : List Text) (element : CodeUnit) (among : part ∈ parts)
    (member : element ∈ part) : element ∈ joined parts := by
  induction parts with
  | nil => cases among
  | cons first rest ih =>
      by_cases none : rest = []
      · subst none
        rw [List.mem_singleton.mp among] at member
        rwa [joined_singleton]
      · rw [joined_cons first rest none, List.mem_append, List.mem_cons]
        rcases List.mem_cons.mp among with rfl | later
        · exact .inl member
        · exact .inr (.inr (ih later))

theorem joined_tail (part : Text) (rest : List Text) (element : CodeUnit)
    (member : element ∈ joined rest) : element ∈ joined (part :: rest) := by
  by_cases none : rest = []
  · subst none
    cases member
  · rw [joined_cons part rest none]
    exact List.mem_append_right _ (.tail _ member)

theorem groups_digits (pieces : List Text) (groups : Groups Digit pieces)
    (same : ∀ element ∈ joined pieces, Digit element → Other element) : Groups Other pieces :=
  fun piece among => group_digits piece (groups piece among) fun element member =>
    same element (joined_member piece pieces element among member)

theorem pieces_digits (pieces : List Text) (weight : Nat) (counted : Pieces Digit pieces weight)
    (same : ∀ element ∈ joined pieces, Digit element → Other element) :
    Pieces Other pieces weight := by
  induction counted with
  | none => exact .none
  | @group piece rest weight group counted ih =>
      refine .group (group_digits piece group fun element member =>
        same element (joined_member piece _ element (.head _) member)) (ih ?_)
      exact fun element member => same element (joined_tail piece rest element member)
  | quad quad => exact .quad quad

theorem address_digits (text : Text) (address : Address Digit text)
    (same : ∀ element ∈ text, Digit element → Other element) : Address Other text := by
  cases address with
  | @full pieces eight => exact .full (pieces_digits pieces 8 eight same)
  | @compressed left right weight groups pieces few =>
      refine .compressed (groups_digits left groups ?_) (pieces_digits right weight pieces ?_) few
      · exact fun element member => same element (by simp [member])
      · exact fun element member => same element (by simp [member])

theorem crowded_digits (text : Text) (crowded : Crowded Digit text)
    (same : ∀ element ∈ text, Digit element → Other element) : Crowded Other text := by
  cases crowded with
  | @front right seven =>
      exact .front (pieces_digits right 7 seven fun element member =>
        same element (by simp [member]))
  | @back left groups seven =>
      exact .back (groups_digits left groups fun element member =>
        same element (by simp [member])) seven

theorem hextet_single (element : CodeUnit) (digit : Digit element) : Hextet Digit [element] :=
  ⟨Nat.le_refl 1, Nat.le_add_left 1 3, List.forall_mem_singleton.mpr digit⟩

theorem crowded_address (text : Text) (crowded : Crowded Digit text) : Address Digit text := by
  cases crowded with
  | @front right seven => exact .compressed groups_nil seven (by decide)
  | @back left groups seven =>
      rw [← List.append_nil (joined left ++ colons)]
      exact .compressed groups .none (by rw [seven])

def Written (Digit : CodeUnit → Prop) (element : CodeUnit) : Prop :=
  element = unit ':' ∨ element = unit '.' ∨ within '0' '9' element = true ∨ Digit element

theorem groups_written (pieces : List Text) (groups : Groups Digit pieces) :
    ∀ element ∈ joined pieces, Written Digit element := by
  intro element member
  rcases mem_separated _ _ _ member with same | ⟨part, among, inside⟩
  · exact .inl same
  · exact .inr (.inr (.inr ((groups part among).2.2 element inside)))

theorem pieces_written (pieces : List Text) (weight : Nat) (counted : Pieces Digit pieces weight) :
    ∀ piece ∈ pieces, ∀ element ∈ piece, Written Digit element := by
  induction counted with
  | none => exact List.forall_mem_nil _
  | group group _ ih =>
      refine List.forall_mem_cons.mpr ⟨fun element member => ?_, ih⟩
      exact .inr (.inr (.inr (group.2.2 element member)))
  | quad quad =>
      refine List.forall_mem_singleton.mpr fun element member => ?_
      rcases quad_elements _ quad element member with dot | figure
      · exact .inr (.inl dot)
      · exact .inr (.inr (.inl figure))

theorem joined_written (pieces : List Text) (weight : Nat) (counted : Pieces Digit pieces weight) :
    ∀ element ∈ joined pieces, Written Digit element := by
  intro element member
  rcases mem_separated _ _ _ member with same | ⟨part, among, inside⟩
  · exact .inl same
  · exact pieces_written pieces weight counted part among element inside

theorem address_written (text : Text) (address : Address Digit text) :
    ∀ element ∈ text, Written Digit element := by
  cases address with
  | @full pieces eight => exact joined_written pieces 8 eight
  | @compressed left right weight groups pieces few =>
      intro element member
      rcases List.mem_append.mp member with front | back
      · rcases List.mem_append.mp front with first | both
        · exact groups_written left groups element first
        · refine .inl ?_
          simpa [colons] using both
      · exact joined_written right weight pieces element back

end Digits

section Validity

theorem ascii_wide : ∀ code < 128, Wide (.ofNat code) ↔ HexDigit (.ofNat code) := by
  decide +kernel

theorem wide_iff (element : CodeUnit) (ascii : element.toNat < 128) :
    Wide element ↔ HexDigit element := by
  have same := ascii_wide element.toNat ascii
  rwa [UInt16.ofNat_toNat] at same

theorem written_ascii (element : CodeUnit) (written : Written HexDigit element) :
    element.toNat < 128 := by
  rcases written with rfl | rfl | figure | digit
  · decide
  · decide
  · have bounds := ((within_iff _ _ _).mp figure).2
    exact Nat.lt_of_le_of_lt bounds (by decide)
  · unfold HexDigit at digit
    simp only [Bool.or_eq_true, within_iff] at digit
    have most : '9'.toNat = 57 ∧ 'f'.toNat = 102 ∧ 'F'.toNat = 70 := ⟨rfl, rfl, rfl⟩
    omega

theorem hex_ascii (element : CodeUnit) (digit : HexDigit element) : element.toNat < 128 :=
  written_ascii element (.inr (.inr (.inr digit)))

theorem hex_wide (element : CodeUnit) (digit : HexDigit element) : Wide element :=
  (wide_iff element (hex_ascii element digit)).mpr digit

theorem valid_forms (text : Text) : isValidIPv6 (some text) = true ↔
    Address Wide text ∧ ¬Crowded Wide text ∨ Dangling Wide text := by
  constructor
  · intro valid
    have roomy : ¬Crowded Wide text := fun crowded => crowded_refused text crowded valid
    have nonempty : text ≠ [] := by
      rintro rfl
      cases valid
    obtain ⟨parts, some, clear, rfl⟩ := exists_parts text
    rcases accepted_forms parts nonempty ((isValidIPv6_joined parts some clear nonempty).mp valid)
      with address | dangling
    · exact .inl ⟨address, roomy⟩
    · exact .inr dangling
  · rintro (⟨address, roomy⟩ | dangling)
    · exact address_valid text address roomy
    · exact dangling_valid text dangling

/-- The texts that are addresses are accepted, and no others, but for three kinds: those with a lone
    colon at an end, the addresses with `::` at an end and seven groups, and what would be an
    address but has digits of another script. -/
theorem isValidIPv6_iff (text : Text) :
    (isValidIPv6 (some text) = true ↔ Address HexDigit text) ↔
      ¬Dangling Wide text ∧ ¬Crowded HexDigit text ∧
        ¬(Address Wide text ∧ ¬Crowded Wide text ∧ ∃ element ∈ text, 128 ≤ element.toNat) := by
  have wide : Address HexDigit text → Address Wide text := fun address =>
    address_digits text address fun element _ => hex_wide element
  have ascii : Address HexDigit text → ∀ element ∈ text, element.toNat < 128 :=
    fun address element member =>
      written_ascii element (address_written text address element member)
  rw [valid_forms]
  constructor
  · intro same
    refine ⟨fun dangling => ?_, fun crowded => ?_, ?_⟩
    · exact dangling_refused text dangling (wide (same.mp (.inr dangling)))
    · have address := crowded_address text crowded
      rcases same.mpr address with ⟨_, roomy⟩ | dangling
      · exact roomy (crowded_digits text crowded fun element _ => hex_wide element)
      · exact dangling_refused text dangling (wide address)
    · rintro ⟨address, roomy, element, member, other⟩
      have plain := ascii (same.mp (.inl ⟨address, roomy⟩)) element member
      omega
  · rintro ⟨lone, roomy, plain⟩
    constructor
    · rintro (⟨address, short⟩ | dangling)
      · refine address_digits text address fun element member digit => ?_
        refine (wide_iff element ?_).mp digit
        by_contra other
        exact plain ⟨address, short, element, member, by omega⟩
      · exact absurd dangling lone
    · intro address
      refine .inl ⟨wide address, fun crowded => roomy ?_⟩
      exact crowded_digits text crowded fun element member digit =>
        (wide_iff element (ascii address element member)).mp digit

/-- A lone colon is accepted behind one group, and `::` is refused behind seven. -/
theorem colons_at_the_end :
    isValidIPv6 (some ("1:".toList.map unit)) = true ∧
      ¬Address HexDigit ("1:".toList.map unit) ∧
      isValidIPv6 (some ("1:1:1:1:1:1:1::".toList.map unit)) = false ∧
      Address HexDigit ("1:1:1:1:1:1:1::".toList.map unit) := by
  have plain : Hextet HexDigit [unit '1'] := hextet_single _ (by decide)
  have single : Hextet Wide [unit '1'] := hextet_single _ (by decide)
  refine ⟨by decide, fun address => ?_, by decide, ?_⟩
  · have dangling : Dangling Wide (joined [[unit '1']] ++ colon) :=
      .back (List.forall_mem_singleton.mpr single) (List.cons_ne_nil _ _) (by decide)
    exact dangling_refused _ dangling (address_digits _ address fun element _ => hex_wide element)
  · have seven : Groups HexDigit (List.replicate 7 [unit '1']) := fun piece member => by
      rwa [List.eq_of_mem_replicate member]
    exact crowded_address _ (Crowded.back seven rfl)

end Validity

end Ptnet.Ipv6Grammar
