import Mathlib.Data.List.Basic

/-!
Runs of a deterministic step function over a list of events. An event carries the answers
of the environment, so every schedule and every outcome of an external call is some list.
`Along` says that a condition holds of each step at the state where it is taken.
-/

namespace Ptnet.Machine

variable {State Event Fact : Type*}

def run (step : State → Event → State) (state : State) (events : List Event) : State :=
  events.foldl step state

def Along (step : State → Event → State) (condition : State → Event → Prop) :
    State → List Event → Prop
  | _, [] => True
  | state, event :: rest =>
      condition state event ∧ Along step condition (step state event) rest

instance (step : State → Event → State) (condition : State → Event → Prop)
    [decision : ∀ state event, Decidable (condition state event)] (state : State)
    (events : List Event) : Decidable (Along step condition state events) :=
  match events with
  | [] => isTrue trivial
  | event :: rest =>
      have := instDecidableAlong step condition (step state event) rest
      inferInstanceAs (Decidable (_ ∧ _))

section Runs

variable (step : State → Event → State) (condition : State → Event → Prop)

@[simp] theorem run_nil (state : State) : run step state [] = state := rfl

@[simp] theorem run_cons (state : State) (event : Event) (rest : List Event) :
    run step state (event :: rest) = run step (step state event) rest := rfl

theorem run_append (state : State) (first last : List Event) :
    run step state (first ++ last) = run step (run step state first) last :=
  List.foldl_append

@[simp] theorem along_nil (state : State) : Along step condition state [] ↔ True := Iff.rfl

@[simp] theorem along_cons (state : State) (event : Event) (rest : List Event) :
    Along step condition state (event :: rest) ↔
      condition state event ∧ Along step condition (step state event) rest := Iff.rfl

theorem along_append (state : State) (first last : List Event) :
    Along step condition state (first ++ last) ↔
      Along step condition state first ∧
        Along step condition (run step state first) last := by
  induction first generalizing state with
  | nil => simp
  | cons event rest ih => simp [ih, and_assoc]

theorem along_and (other : State → Event → Prop) (state : State) (events : List Event)
    (first : Along step condition state events) (second : Along step other state events) :
    Along step (fun current event => condition current event ∧ other current event)
      state events := by
  induction events generalizing state with
  | nil => trivial
  | cons event rest ih =>
      exact ⟨⟨first.1, second.1⟩, ih (step state event) first.2 second.2⟩

theorem along_of_forall (state : State) (events : List Event)
    (holds : ∀ event ∈ events, ∀ current, condition current event) :
    Along step condition state events := by
  induction events generalizing state with
  | nil => trivial
  | cons event rest ih =>
      exact ⟨holds event List.mem_cons_self state,
        ih (step state event) fun later member => holds later (List.mem_cons_of_mem event member)⟩

/-- An invariant which every admitted step keeps holds after every admitted run. -/
theorem run_invariant (invariant : State → Prop)
    (preserved : ∀ state event, invariant state → condition state event →
      invariant (step state event))
    (state : State) (events : List Event) (admitted : Along step condition state events)
    (initial : invariant state) : invariant (run step state events) := by
  induction events generalizing state with
  | nil => exact initial
  | cons event rest ih =>
      exact ih (step state event) admitted.2 (preserved state event initial admitted.1)

/-- What an invariant and the condition of a step make sure of holds of all steps. -/
theorem along_of_invariant (other : State → Event → Prop) (invariant : State → Prop)
    (preserved : ∀ state event, invariant state → condition state event →
      invariant (step state event))
    (holds : ∀ state event, invariant state → condition state event → other state event)
    (state : State) (events : List Event) (admitted : Along step condition state events)
    (initial : invariant state) : Along step other state events := by
  induction events generalizing state with
  | nil => trivial
  | cons event rest ih =>
      exact ⟨holds state event initial admitted.1,
        ih (step state event) admitted.2 (preserved state event initial admitted.1)⟩

def trace (observe : State → Event → Fact) : State → List Event → List Fact
  | _, [] => []
  | state, event :: rest => observe state event :: trace observe (step state event) rest

/-- Two lists of events that are related one for one, at the states of the first run. -/
def Lockstep (relation : State → Event → Event → Prop) : State → List Event → List Event → Prop
  | _, [], [] => True
  | state, event :: rest, other :: others =>
      relation state event other ∧ Lockstep relation (step state event) rest others
  | _, _, _ => False

/-- Where related events have one effect, the two runs are one. -/
theorem lockstep_agrees (relation : State → Event → Event → Prop) (invariant : State → Prop)
    (observe : State → Event → Fact)
    (preserved : ∀ state event, invariant state → invariant (step state event))
    (same : ∀ state event other, invariant state → relation state event other →
      step state event = step state other ∧ observe state event = observe state other)
    (state : State) (events others : List Event) (initial : invariant state)
    (related : Lockstep step relation state events others) :
    run step state events = run step state others ∧
      trace step observe state events = trace step observe state others := by
  induction events generalizing state others with
  | nil =>
      cases others with
      | nil => exact ⟨rfl, rfl⟩
      | cons other others => exact related.elim
  | cons event rest ih =>
      cases others with
      | nil => exact related.elim
      | cons other others =>
          obtain ⟨first, later⟩ := related
          obtain ⟨stepped, observed⟩ := same state event other initial first
          obtain ⟨ends, traces⟩ := ih (step state event) others (preserved state event initial) later
          constructor
          · rw [run_cons, run_cons, ends, stepped]
          · rw [trace, trace, traces, observed, stepped]

theorem run_invariant_always (invariant : State → Prop)
    (preserved : ∀ state event, invariant state → invariant (step state event))
    (state : State) (events : List Event) (initial : invariant state) :
    invariant (run step state events) := by
  have admitted : Along step (fun _ _ => True) state events := by
    induction events generalizing state with
    | nil => trivial
    | cons event rest ih => exact ⟨trivial, ih _ (preserved state event initial)⟩
  exact run_invariant step _ invariant (fun current event holds _ => preserved current event holds)
    state events admitted initial

/-- A property that every step keeps under just one condition holds in all states reached if
    and only if the condition is met all along. -/
theorem reached_iff (property : State → Prop)
    (exact_step : ∀ state event, property state →
      (property (step state event) ↔ condition state event))
    (state : State) (events : List Event) (initial : property state) :
    (∀ reached, reached <+: events → property (run step state reached)) ↔
      Along step condition state events := by
  induction events generalizing state with
  | nil =>
      refine iff_of_true (fun reached within => ?_) trivial
      rw [List.prefix_nil.mp within]
      exact initial
  | cons event rest ih =>
      constructor
      · intro always
        have first := always [event] ⟨rest, rfl⟩
        have later := fun reached (within : reached <+: rest) =>
          always (event :: reached) ((List.cons_prefix_cons).mpr ⟨rfl, within⟩)
        exact ⟨(exact_step state event initial).mp first, (ih _ first).mp later⟩
      · rintro ⟨here, along⟩ reached within
        have next := (exact_step state event initial).mpr here
        cases reached with
        | nil => exact initial
        | cons first others =>
            obtain ⟨rfl, inside⟩ := List.cons_prefix_cons.mp within
            exact (ih _ next).mpr along others inside

end Runs

end Ptnet.Machine
