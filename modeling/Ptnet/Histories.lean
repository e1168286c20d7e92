import Mathlib.Data.List.Basic

/-!
Logs in which each entry is allowed by the entries before it. A rule is checked where an entry is
added, and then holds at every place of the log. Nothing here is about a program.
-/

namespace Ptnet.Histories

variable {Entry : Type*}

def Justified (rule : List Entry → Entry → Prop) : List Entry → List Entry → Prop
  | _, [] => True
  | past, entry :: rest => rule past entry ∧ Justified rule (past ++ [entry]) rest

variable (rule : List Entry → Entry → Prop)

@[simp] theorem justified_nil (past : List Entry) : Justified rule past [] ↔ True := Iff.rfl

@[simp] theorem justified_cons (past rest : List Entry) (entry : Entry) :
    Justified rule past (entry :: rest) ↔
      rule past entry ∧ Justified rule (past ++ [entry]) rest := Iff.rfl

theorem justified_append (past first last : List Entry) :
    Justified rule past (first ++ last) ↔
      Justified rule past first ∧ Justified rule (past ++ first) last := by
  induction first generalizing past with
  | nil => simp
  | cons entry rest ih => simp [ih, and_assoc]

/-- Entries that no past forbids can always be added. -/
theorem justified_of_forall (past log : List Entry)
    (free : ∀ entry ∈ log, ∀ before, rule before entry) : Justified rule past log := by
  induction log generalizing past with
  | nil => trivial
  | cons entry rest ih =>
      exact ⟨free entry List.mem_cons_self past,
        ih (past ++ [entry]) fun later member => free later (List.mem_cons_of_mem entry member)⟩

theorem justified_iff (past log : List Entry) : Justified rule past log ↔
    ∀ before entry after, log = before ++ entry :: after → rule (past ++ before) entry := by
  induction log generalizing past with
  | nil => simp
  | cons first rest ih =>
      rw [justified_cons, ih]
      constructor
      · rintro ⟨here, later⟩ before entry after split
        cases before with
        | nil =>
            obtain ⟨rfl, _⟩ := List.cons.inj split
            simpa using here
        | cons head others =>
            obtain ⟨rfl, behind⟩ := List.cons.inj split
            simpa using later others entry after behind
      · intro always
        refine ⟨by simpa using always [] first rest rfl, fun before entry after split => ?_⟩
        simpa using always (first :: before) entry after (by rw [split]; rfl)

end Ptnet.Histories
