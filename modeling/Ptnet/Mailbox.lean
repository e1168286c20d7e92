import Mathlib.Data.List.Induction

/-!
What a mailbox with late registration has to deliver. Messages carry a key, owners register
for a key, and a message belongs to the owner which was registered last when it arrived, or
else to the first one to register afterwards. Everything is a function of the history of
arrivals and registrations; how a program stores and forwards messages is not fixed here.
-/

namespace Ptnet.Mailbox

variable {Owner Message Key : Type*} [DecidableEq Key]

inductive Happening (Owner Message : Type*) where
  | arrived (message : Message)
  | registered (owner : Owner)
  deriving DecidableEq, Repr

section Specification

variable (ownerKey : Owner → Key) (messageKey : Message → Key) (key : Key)

def owners : List (Happening Owner Message) → List Owner
  | [] => []
  | .arrived _ :: rest => owners rest
  | .registered owner :: rest =>
      if ownerKey owner = key then owner :: owners rest else owners rest

def arrivals : List (Happening Owner Message) → List Message
  | [] => []
  | .arrived message :: rest =>
      if messageKey message = key then message :: arrivals rest else arrivals rest
  | .registered _ :: rest => arrivals rest

/-- The owner of a message that arrived between `past` and `future`. -/
def recipient (past future : List (Happening Owner Message)) : Option Owner :=
  (owners ownerKey key past).getLast?.or (owners ownerKey key future).head?

def deliveriesFrom (past : List (Happening Owner Message)) :
    List (Happening Owner Message) → List (Owner × Message)
  | [] => []
  | .arrived message :: future =>
      let later := deliveriesFrom (past ++ [.arrived message]) future
      if messageKey message = key then
        match recipient ownerKey key past future with
        | some owner => (owner, message) :: later
        | none => later
      else later
  | .registered owner :: future => deliveriesFrom (past ++ [.registered owner]) future

/-- The deliveries owed for a key after a history, in the order of arrival. -/
def deliveries (history : List (Happening Owner Message)) : List (Owner × Message) :=
  deliveriesFrom ownerKey messageKey key [] history

def waiting (history : List (Happening Owner Message)) : List Message :=
  if owners ownerKey key history = [] then arrivals messageKey key history else []

end Specification

section Laws

variable (ownerKey : Owner → Key) (messageKey : Message → Key) (key : Key)
variable (past future : List (Happening Owner Message))

@[simp] theorem owners_append : owners ownerKey key (past ++ future)
    = owners ownerKey key past ++ owners ownerKey key future := by
  induction past with
  | nil => rfl
  | cons happening rest ih =>
      cases happening with
      | arrived message => exact ih
      | registered owner =>
          simp only [List.cons_append, owners]
          split <;> simp [ih]

@[simp] theorem arrivals_append : arrivals messageKey key (past ++ future)
    = arrivals messageKey key past ++ arrivals messageKey key future := by
  induction past with
  | nil => rfl
  | cons happening rest ih =>
      cases happening with
      | registered owner => exact ih
      | arrived message =>
          simp only [List.cons_append, arrivals]
          split <;> simp [ih]

theorem mem_owners (owner : Owner) (history : List (Happening Owner Message)) :
    owner ∈ owners ownerKey key history ↔ .registered owner ∈ history ∧ ownerKey owner = key := by
  induction history with
  | nil => simp [owners]
  | cons happening rest ih =>
      cases happening with
      | arrived message => simp [owners, ih]
      | registered other =>
          by_cases named : ownerKey other = key
          · simp only [owners, named, if_true, List.mem_cons, ih, Happening.registered.injEq]
            constructor
            · rintro (rfl | ⟨later, same⟩)
              · exact ⟨Or.inl rfl, named⟩
              · exact ⟨Or.inr later, same⟩
            · rintro ⟨rfl | later, same⟩
              · exact Or.inl rfl
              · exact Or.inr ⟨later, same⟩
          · simp only [owners, named, if_false, List.mem_cons, ih, Happening.registered.injEq]
            constructor
            · rintro ⟨later, same⟩
              exact ⟨Or.inr later, same⟩
            · rintro ⟨rfl | later, same⟩
              · exact absurd same named
              · exact ⟨later, same⟩

theorem arrivals_key (message : Message) (history : List (Happening Owner Message))
    (member : message ∈ arrivals messageKey key history) : messageKey message = key := by
  induction history with
  | nil => cases member
  | cons happening rest ih =>
      cases happening with
      | registered owner => exact ih member
      | arrived other =>
          unfold arrivals at member
          split at member
          · rcases List.mem_cons.mp member with same | later
            · rw [same]
              assumption
            · exact ih later
          · exact ih member

theorem waiting_key (message : Message) (history : List (Happening Owner Message))
    (member : message ∈ waiting ownerKey messageKey key history) : messageKey message = key := by
  unfold waiting at member
  split at member
  · exact arrivals_key messageKey key message history member
  · cases member

theorem deliveriesFrom_arrived (message : Message) :
    deliveriesFrom ownerKey messageKey key past (future ++ [.arrived message])
      = deliveriesFrom ownerKey messageKey key past future
        ++ if messageKey message = key then
            ((owners ownerKey key (past ++ future)).getLast?.toList.map fun owner =>
              (owner, message))
          else [] := by
  induction future generalizing past with
  | nil =>
      simp only [List.nil_append, deliveriesFrom, recipient, owners, List.head?_nil,
        Option.or_none, List.append_nil]
      split
      · cases (owners ownerKey key past).getLast? <;> rfl
      · rfl
  | cons happening rest ih =>
      cases happening with
      | registered owner =>
          simp only [List.cons_append, deliveriesFrom, ih]
          simp
      | arrived other =>
          have unchanged : recipient ownerKey key past (rest ++ [.arrived message])
              = recipient ownerKey key past rest := by
            simp [recipient, owners]
          simp only [List.cons_append, deliveriesFrom, ih, unchanged]
          split
          · cases recipient ownerKey key past rest <;> simp
          · simp

theorem deliveriesFrom_again (owner : Owner) (known : owners ownerKey key (past ++ future) ≠ []) :
    deliveriesFrom ownerKey messageKey key past (future ++ [.registered owner])
      = deliveriesFrom ownerKey messageKey key past future := by
  induction future generalizing past with
  | nil => rfl
  | cons happening rest ih =>
      cases happening with
      | registered other =>
          simp only [List.cons_append, deliveriesFrom]
          exact ih (past ++ [.registered other]) (by simpa using known)
      | arrived message =>
          have unchanged : recipient ownerKey key past (rest ++ [.registered owner])
              = recipient ownerKey key past rest := by
            unfold recipient
            by_cases before : owners ownerKey key past = []
            · have after : owners ownerKey key rest ≠ [] := by
                simpa [owners, before] using known
              obtain ⟨first, others, shape⟩ := List.exists_cons_of_ne_nil after
              rw [owners_append, shape]
              rfl
            · have last : (owners ownerKey key past).getLast?
                  = some ((owners ownerKey key past).getLast before) :=
                List.getLast?_eq_some_getLast before
              rw [last, Option.some_or, Option.some_or]
          have tail := ih (past ++ [.arrived message]) (by simpa using known)
          simp only [List.cons_append, deliveriesFrom, unchanged, tail]

theorem deliveriesFrom_other (owner : Owner) (differs : ownerKey owner ≠ key) :
    deliveriesFrom ownerKey messageKey key past (future ++ [.registered owner])
      = deliveriesFrom ownerKey messageKey key past future := by
  induction future generalizing past with
  | nil => rfl
  | cons happening rest ih =>
      cases happening with
      | registered other =>
          simp only [List.cons_append, deliveriesFrom]
          exact ih (past ++ [.registered other])
      | arrived message =>
          have unchanged : recipient ownerKey key past (rest ++ [.registered owner])
              = recipient ownerKey key past rest := by
            simp [recipient, owners, differs]
          simp only [List.cons_append, deliveriesFrom, unchanged, ih]

theorem deliveriesFrom_nobody (nobody : owners ownerKey key (past ++ future) = []) :
    deliveriesFrom ownerKey messageKey key past future = [] := by
  induction future generalizing past with
  | nil => rfl
  | cons happening rest ih =>
      rw [owners_append, List.append_eq_nil_iff] at nobody
      cases happening with
      | registered other =>
          exact ih (past ++ [.registered other]) (by simpa using nobody)
      | arrived message =>
          have later := ih (past ++ [.arrived message]) (by simpa [owners] using nobody)
          have orphan : recipient ownerKey key past rest = none := by
            have after : owners ownerKey key rest = [] := nobody.2
            rw [recipient, nobody.1, after]
            rfl
          simp [deliveriesFrom, later, orphan]

/-- The first owner of a key gets everything that has been waiting. -/
theorem deliveriesFrom_first (owner : Owner) (named : ownerKey owner = key)
    (nobody : owners ownerKey key (past ++ future) = []) :
    deliveriesFrom ownerKey messageKey key past (future ++ [.registered owner])
      = (arrivals messageKey key future).map fun message => (owner, message) := by
  induction future generalizing past with
  | nil => rfl
  | cons happening rest ih =>
      rw [owners_append, List.append_eq_nil_iff] at nobody
      cases happening with
      | registered other =>
          exact ih (past ++ [.registered other]) (by simpa using nobody)
      | arrived message =>
          have later := ih (past ++ [.arrived message]) (by simpa [owners] using nobody)
          have first : recipient ownerKey key past (rest ++ [.registered owner]) = some owner := by
            have after : owners ownerKey key rest = [] := nobody.2
            simp [recipient, nobody.1, after, owners, named]
          simp only [List.cons_append, deliveriesFrom, first, later, arrivals]
          split <;> rfl

variable (history : List (Happening Owner Message))

theorem deliveries_arrived (message : Message) :
    deliveries ownerKey messageKey key (history ++ [.arrived message])
      = deliveries ownerKey messageKey key history
        ++ if messageKey message = key then
            ((owners ownerKey key history).getLast?.toList.map fun owner => (owner, message))
          else [] :=
  deliveriesFrom_arrived ownerKey messageKey key [] history message

theorem deliveries_registered (owner : Owner) :
    deliveries ownerKey messageKey key (history ++ [.registered owner])
      = deliveries ownerKey messageKey key history
        ++ if ownerKey owner = key then
            (waiting ownerKey messageKey key history).map fun message => (owner, message)
          else [] := by
  unfold deliveries waiting
  by_cases named : ownerKey owner = key
  · by_cases nobody : owners ownerKey key history = []
    · rw [deliveriesFrom_first ownerKey messageKey key [] history owner named nobody,
        deliveriesFrom_nobody ownerKey messageKey key [] history nobody, if_pos named,
        if_pos nobody, List.nil_append]
    · rw [deliveriesFrom_again ownerKey messageKey key [] history owner nobody, if_pos named,
        if_neg nobody, List.map_nil, List.append_nil]
  · rw [deliveriesFrom_other ownerKey messageKey key [] history owner named, if_neg named,
      List.append_nil]

theorem waiting_arrived (message : Message) :
    waiting ownerKey messageKey key (history ++ [.arrived message])
      = waiting ownerKey messageKey key history
        ++ if messageKey message = key ∧ owners ownerKey key history = [] then [message]
          else [] := by
  unfold waiting
  by_cases nobody : owners ownerKey key history = []
  · by_cases named : messageKey message = key
    · simp [nobody, named, owners, arrivals]
    · simp [nobody, named, owners, arrivals]
  · simp [nobody, owners]

theorem waiting_registered (owner : Owner) :
    waiting ownerKey messageKey key (history ++ [.registered owner])
      = if ownerKey owner = key then [] else waiting ownerKey messageKey key history := by
  unfold waiting
  by_cases named : ownerKey owner = key
  · simp [named, owners]
  · simp [named, owners, arrivals]

/-- Every message is delivered once or is still waiting, and none overtakes another. -/
theorem deliveries_arrivals :
    (deliveries ownerKey messageKey key history).map Prod.snd
      ++ waiting ownerKey messageKey key history = arrivals messageKey key history := by
  induction history using List.reverseRecOn with
  | nil => rfl
  | append_singleton rest happening ih =>
      cases happening with
      | registered owner =>
          rw [deliveries_registered, waiting_registered, arrivals_append, ← ih]
          by_cases named : ownerKey owner = key
          · simp [named, arrivals, Function.comp_def]
          · simp [named, arrivals]
      | arrived message =>
          rw [deliveries_arrived, waiting_arrived, arrivals_append, ← ih]
          by_cases named : messageKey message = key
          · cases known : owners ownerKey key rest with
            | nil => simp [named, arrivals]
            | cons first others =>
                have empty : waiting ownerKey messageKey key rest = [] := by
                  simp [waiting, known]
                simp [named, arrivals, empty, List.getLast?_cons]
          · simp [named, arrivals]

end Laws

end Ptnet.Mailbox
