import Mathlib.Tactic

/-
This file gives the induction rules for runs of a deterministic step function.
-/

namespace Runs

variable {State Input : Type}

/-- A run applies the inputs from left to right. -/
def run (step : State → Input → State) (start : State) (inputs : List Input) : State :=
  inputs.foldl step start

def Reachable (step : State → Input → State) (start state : State) : Prop :=
  ∃ inputs, run step start inputs = state

@[simp] theorem run_nil (step : State → Input → State) (start : State) :
    run step start [] = start := rfl

@[simp] theorem run_cons (step : State → Input → State) (start : State) (input : Input)
    (rest : List Input) : run step start (input :: rest) = run step (step start input) rest := rfl

theorem run_append (step : State → Input → State) (start : State) (first second : List Input) :
    run step start (first ++ second) = run step (run step start first) second :=
  List.foldl_append

theorem Reachable.start (step : State → Input → State) (start : State) :
    Reachable step start start := ⟨[], rfl⟩

theorem Reachable.next {step : State → Input → State} {start state : State}
    (reached : Reachable step start state) (input : Input) :
    Reachable step start (step state input) := by
  obtain ⟨inputs, rfl⟩ := reached
  exact ⟨inputs ++ [input], run_append step start inputs [input]⟩

theorem Reachable.run {step : State → Input → State} {start state : State}
    (reached : Reachable step start state) (inputs : List Input) :
    Reachable step start (run step state inputs) := by
  obtain ⟨first, rfl⟩ := reached
  exact ⟨first ++ inputs, run_append step start first inputs⟩

/-- A property that every step keeps holds after every run. -/
theorem run_keeps {step : State → Input → State} {Property : State → Prop}
    (keeps : ∀ state input, Property state → Property (step state input))
    {start : State} (initial : Property start) (inputs : List Input) :
    Property (run step start inputs) := by
  induction inputs generalizing start with
  | nil => exact initial
  | cons input rest ih => exact ih (keeps start input initial)

/-- A property that holds at the start and that every step keeps holds in every reached state. -/
theorem Reachable.invariant {step : State → Input → State} {start : State}
    {Property : State → Prop} (initial : Property start)
    (keeps : ∀ state input, Property state → Property (step state input))
    {state : State} (reached : Reachable step start state) : Property state := by
  obtain ⟨inputs, rfl⟩ := reached
  exact run_keeps keeps initial inputs

/-- A property that a run reaches and that does not hold at its start begins at one of its steps. -/
theorem run_entry {step : State → Input → State} {Property : State → Prop} {start : State}
    (initial : ¬ Property start) {inputs : List Input} (final : Property (run step start inputs)) :
    ∃ before input rest, inputs = before ++ input :: rest ∧ ¬ Property (run step start before) ∧
      Property (step (run step start before) input) := by
  induction inputs using List.reverseRecOn with
  | nil => exact absurd final initial
  | append_singleton earlier last ih =>
      by_cases held : Property (run step start earlier)
      · obtain ⟨before, input, rest, split, outside, inside⟩ := ih held
        exact ⟨before, input, rest ++ [last], by rw [split]; simp, outside, inside⟩
      · rw [run_append] at final
        exact ⟨earlier, last, [], rfl, held, final⟩

/-- The history pairs each input of a run with the state that receives it. -/
def history (step : State → Input → State) : State → List Input → List (State × Input)
  | _, [] => []
  | state, input :: rest => (state, input) :: history step (step state input) rest

/-- No entry of the history is a hit once a stable property excludes hits. -/
theorem history_filter_nil {step : State → Input → State} {Invariant Closed : State → Prop}
    {hit : State → Input → Bool}
    (keepsInvariant : ∀ state input, Invariant state → Invariant (step state input))
    (keepsClosed : ∀ state input, Invariant state → Closed state → Closed (step state input))
    (excludes : ∀ state input, Invariant state → Closed state → hit state input = false)
    {start : State} (invariant : Invariant start) (closed : Closed start) (inputs : List Input) :
    (history step start inputs).filter (fun entry => hit entry.1 entry.2) = [] := by
  induction inputs generalizing start with
  | nil => rfl
  | cons input rest ih =>
      rw [history, List.filter_cons, if_neg (by simp [excludes start input invariant closed])]
      exact ih (keepsInvariant start input invariant) (keepsClosed start input invariant closed)

/-- A hit that closes the door behind it happens at most once in a run. -/
theorem history_filter_le_one {step : State → Input → State} {Invariant Closed : State → Prop}
    {hit : State → Input → Bool}
    (keepsInvariant : ∀ state input, Invariant state → Invariant (step state input))
    (keepsClosed : ∀ state input, Invariant state → Closed state → Closed (step state input))
    (closes : ∀ state input, Invariant state → hit state input = true → Closed (step state input))
    (excludes : ∀ state input, Invariant state → Closed state → hit state input = false)
    {start : State} (invariant : Invariant start) (inputs : List Input) :
    ((history step start inputs).filter fun entry => hit entry.1 entry.2).length ≤ 1 := by
  induction inputs generalizing start with
  | nil => simp [history]
  | cons input rest ih =>
      have next := keepsInvariant start input invariant
      rw [history, List.filter_cons]
      split
      · next isHit =>
          rw [history_filter_nil keepsInvariant keepsClosed excludes next
            (closes start input invariant isHit)]
          simp
      · exact ih next

end Runs
