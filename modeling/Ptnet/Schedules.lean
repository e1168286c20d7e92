import Ptnet.Machine
import Mathlib.Order.WellFounded

/-!
Infinite runs: a schedule gives an event for every time, and something happens eventually when a
rank that never grows falls at infinitely many times.
-/

namespace Ptnet.Machine

variable {State Event : Type*}

def states (step : State → Event → State) (start : State) (schedule : Nat → Event) : Nat → State
  | 0 => start
  | time + 1 => step (states step start schedule time) (schedule time)

section Schedules

variable (step : State → Event → State) (start : State) (schedule : Nat → Event)

theorem states_run (time : Nat) :
    states step start schedule time = run step start ((List.range time).map schedule) := by
  induction time with
  | zero => rfl
  | succ time ih =>
      rw [states, ih, List.range_succ, List.map_append, run_append]
      rfl

theorem states_always (property : State → Prop) (first time : Nat) (later : first ≤ time)
    (initial : property (states step start schedule first))
    (preserved : ∀ now, first ≤ now → now < time → property (states step start schedule now) →
      property (states step start schedule (now + 1))) :
    property (states step start schedule time) := by
  induction time, later using Nat.le_induction with
  | base => exact initial
  | succ time later ih =>
      apply preserved time later (Nat.lt_succ_self time)
      exact ih fun now after before => preserved now after (Nat.lt_succ_of_lt before)

/-- A rank that does not grow cannot fall again and again. -/
theorem rank_runs_out (rank : Nat → Nat) (first : Nat)
    (bounded : ∀ time, first ≤ time → rank (time + 1) ≤ rank time)
    (falls : ∀ time, first ≤ time → ∃ later, time ≤ later ∧ rank (later + 1) < rank later) :
    False := by
  have descending : ∀ time later, first ≤ time → time ≤ later → rank later ≤ rank time := by
    intro time later after ordered
    induction later, ordered using Nat.le_induction with
    | base => exact le_rfl
    | succ later ordered ih => exact (bounded later (after.trans ordered)).trans ih
  -- The time at which the rank is least: it falls below that once more.
  obtain ⟨least, after, minimal⟩ : ∃ time, first ≤ time ∧ ∀ other, first ≤ other →
      rank time ≤ rank other := by
    obtain ⟨time, after, minimal⟩ := WellFounded.has_min
      (InvImage.wf rank Nat.lt_wfRel.wf) {time | first ≤ time} ⟨first, Nat.le_refl first⟩
    exact ⟨time, after, fun other inside => Nat.le_of_not_lt (minimal other inside)⟩
  obtain ⟨later, ordered, fell⟩ := falls least after
  have lower := descending least later after ordered
  have upper := minimal (later + 1) (by omega)
  omega

end Schedules

end Ptnet.Machine
