import Mathlib

/-!
Patterns that are matched from the left with backtracking, and what each can leave of a text. A
check looks at all that is left and takes nothing.
-/

namespace Ptnet.Patterns

inductive Pattern (Symbol : Type) where
  | one (test : Symbol → Bool)
  | check (test : List Symbol → Bool)
  | sequence (first second : Pattern Symbol)
  | either (first second : Pattern Symbol)

variable {Symbol : Type}

def remainders : Pattern Symbol → List Symbol → List (List Symbol)
  | .one _, [] => []
  | .one test, symbol :: rest => if test symbol then [rest] else []
  | .check test, text => if test text then [text] else []
  | .sequence first second, text => (remainders first text).flatMap (remainders second)
  | .either first second, text => remainders first text ++ remainders second text

def times : Nat → Pattern Symbol → Pattern Symbol
  | 0, _ => .check fun _ => true
  | count + 1, pattern => .sequence pattern (times count pattern)

def takes (pattern : Pattern Symbol) (text : List Symbol) : Bool :=
  (remainders pattern text).any List.isEmpty

theorem takes_iff (pattern : Pattern Symbol) (text : List Symbol) :
    takes pattern text = true ↔ [] ∈ remainders pattern text := by
  simp [takes]

@[simp] theorem mem_one (test : Symbol → Bool) (text rest : List Symbol) :
    rest ∈ remainders (.one test) text ↔ ∃ symbol, text = symbol :: rest ∧ test symbol = true := by
  cases text with
  | nil => simp [remainders]
  | cons first others =>
      by_cases tested : test first = true
      · simp only [remainders, if_pos tested, List.mem_singleton, List.cons.injEq]
        constructor
        · rintro rfl
          exact ⟨first, ⟨rfl, rfl⟩, tested⟩
        · rintro ⟨_, ⟨_, same⟩, _⟩
          exact same.symm
      · simp [remainders, tested]

@[simp] theorem mem_check (test : List Symbol → Bool) (text rest : List Symbol) :
    rest ∈ remainders (.check test) text ↔ rest = text ∧ test text = true := by
  by_cases tested : test text = true <;> simp [remainders, tested]

@[simp] theorem mem_sequence (first second : Pattern Symbol) (text rest : List Symbol) :
    rest ∈ remainders (.sequence first second) text ↔
      ∃ middle ∈ remainders first text, rest ∈ remainders second middle := by
  simp [remainders]

@[simp] theorem mem_either (first second : Pattern Symbol) (text rest : List Symbol) :
    rest ∈ remainders (.either first second) text ↔
      rest ∈ remainders first text ∨ rest ∈ remainders second text := by
  simp [remainders]

/-- There is no check in it. -/
def Plain : Pattern Symbol → Prop
  | .one _ => True
  | .check _ => False
  | .sequence first second => Plain first ∧ Plain second
  | .either first second => Plain first ∧ Plain second

/-- A plain pattern takes words, whatever follows. -/
theorem mem_plain (pattern : Pattern Symbol) (plain : Plain pattern) (text rest : List Symbol) :
    rest ∈ remainders pattern text ↔
      ∃ word, text = word ++ rest ∧ [] ∈ remainders pattern word := by
  induction pattern generalizing text rest with
  | one test => simp [mem_one]
  | check test => exact plain.elim
  | sequence first second firstIh secondIh =>
      simp only [mem_sequence]
      constructor
      · rintro ⟨middle, taken, left⟩
        obtain ⟨front, rfl, took⟩ := (firstIh plain.1 text middle).mp taken
        obtain ⟨back, rfl, finished⟩ := (secondIh plain.2 middle rest).mp left
        refine ⟨front ++ back, (List.append_assoc _ _ _).symm, back, ?_, finished⟩
        exact (firstIh plain.1 _ _).mpr ⟨front, rfl, took⟩
      · rintro ⟨word, rfl, middle, taken, left⟩
        obtain ⟨front, rfl, took⟩ := (firstIh plain.1 word middle).mp taken
        refine ⟨middle ++ rest, ?_, (secondIh plain.2 _ _).mpr ⟨middle, rfl, left⟩⟩
        exact (firstIh plain.1 _ _).mpr ⟨front, List.append_assoc _ _ _, took⟩
  | either first second firstIh secondIh =>
      simp only [mem_either, firstIh plain.1 text rest, secondIh plain.2 text rest]
      constructor
      · rintro (⟨word, split, taken⟩ | ⟨word, split, taken⟩)
        · exact ⟨word, split, .inl taken⟩
        · exact ⟨word, split, .inr taken⟩
      · rintro ⟨word, split, taken | taken⟩
        · exact .inl ⟨word, split, taken⟩
        · exact .inr ⟨word, split, taken⟩

end Ptnet.Patterns
