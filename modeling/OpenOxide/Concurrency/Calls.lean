import Mathlib.Data.List.Basic

/-!
# Sequences of calls

A service that answers one call at a time is a step function on its state.  A
guard is a condition on a call in the state in which it is made, and `AllMeet`
says that every call of a sequence meets it.
-/

namespace OpenOxide.Concurrency

variable {State Request : Type} (step : State → Request → State)

/-- The state after a sequence of calls. -/
def serveAll (state : State) (requests : List Request) : State :=
  requests.foldl step state

/-- Every call meets the guard in the state in which it is made. -/
def AllMeet (guard : State → Request → Prop) : State → List Request → Prop
  | _, [] => True
  | state, request :: requests =>
    guard state request ∧ AllMeet guard (step state request) requests

/-- Whether a sequence meets a guard can be computed when the guard can. -/
instance AllMeet.decidable {guard : State → Request → Prop}
    [∀ state request, Decidable (guard state request)] :
    (state : State) → (requests : List Request) →
      Decidable (AllMeet step guard state requests)
  | _, [] => .isTrue trivial
  | state, request :: requests =>
    @instDecidableAnd _ _ _ (AllMeet.decidable (step state request) requests)

variable {step} {guard : State → Request → Prop}

theorem AllMeet.imp {other : State → Request → Prop} {state : State}
    {requests : List Request} (meets : AllMeet step guard state requests)
    (implied : ∀ state, ∀ request ∈ requests, guard state request →
      other state request) : AllMeet step other state requests := by
  induction requests generalizing state with
  | nil => trivial
  | cons request requests induction =>
    constructor
    · exact implied state request List.mem_cons_self meets.1
    · apply induction meets.2
      intro state later member
      exact implied state later (List.mem_cons_of_mem _ member)

theorem AllMeet.invariant {state : State} {requests : List Request}
    (meets : AllMeet step guard state requests) (Invariant : State → Prop)
    (initial : Invariant state)
    (kept : ∀ state request, Invariant state → guard state request →
      Invariant (step state request)) :
    Invariant (serveAll step state requests) := by
  induction requests generalizing state with
  | nil => exact initial
  | cons request requests induction =>
    exact induction meets.2 (kept state request initial meets.1)

end OpenOxide.Concurrency
