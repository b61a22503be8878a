import Mathlib.Data.List.Induction

set_option autoImplicit false

namespace AbilityRuntime.Library

/-- The runs of a deterministic machine that takes one call after the other. -/
structure Machine (State Call : Type) where
  start : State
  step : State -> Call -> State

namespace Machine

variable {State Call : Type} (machine : Machine State Call)

def run (calls : List Call) : State := calls.foldl machine.step machine.start

@[simp] theorem run_concat (done : List Call) (call : Call) :
    machine.run (done ++ [call]) = machine.step (machine.run done) call := by
  simp [run]

/-- Every state that the run goes through, the first and the last included. -/
def Throughout (calls : List Call) (holds : State -> Prop) : Prop :=
  ∀ done rest, calls = done ++ rest -> holds (machine.run done)

/-- Every step of the run is taken in a state in which the call meets the condition. -/
def EveryStep (calls : List Call) (meets : State -> Call -> Prop) : Prop :=
  ∀ done call rest, calls = done ++ call :: rest -> meets (machine.run done) call

def StepsFrom (meets : State -> Call -> Prop) : State -> List Call -> Prop
  | _, [] => True
  | state, call :: rest => meets state call ∧ StepsFrom meets (machine.step state call) rest

instance decidableStepsFrom (meets : State -> Call -> Prop) [∀ state call, Decidable (meets state call)] :
    ∀ state calls, Decidable (machine.StepsFrom meets state calls)
  | _, [] => isTrue trivial
  | state, call :: rest =>
    have := decidableStepsFrom meets (machine.step state call) rest
    inferInstanceAs (Decidable (_ ∧ _))

variable {machine} {assumed meets : State -> Call -> Prop} {invariant good : State -> Prop}

theorem StepsFrom.everyStep {calls : List Call}
    (steps : machine.StepsFrom meets machine.start calls) : machine.EveryStep calls meets := by
  have general : ∀ (done calls : List Call) (call : Call) (rest : List Call) (state : State),
      machine.StepsFrom meets state calls -> calls = done ++ call :: rest ->
        meets (done.foldl machine.step state) call := by
    intro done
    induction done with
    | nil =>
      rintro _ call rest state steps rfl
      exact steps.1
    | cons first done ih =>
      rintro _ call rest state steps rfl
      exact ih _ call rest _ steps.2 rfl
  exact fun done call rest split => general done calls call rest machine.start steps split

theorem EveryStep.and {other : State -> Call -> Prop} {calls : List Call}
    (first : machine.EveryStep calls meets) (second : machine.EveryStep calls other) :
    machine.EveryStep calls fun state call => meets state call ∧ other state call :=
  fun done call rest split => ⟨first done call rest split, second done call rest split⟩

theorem EveryStep.throughout (initial : invariant machine.start)
    (preserved : ∀ state call, invariant state -> meets state call ->
      invariant (machine.step state call))
    {calls : List Call} (every : machine.EveryStep calls meets) :
    machine.Throughout calls invariant := by
  intro done
  induction done using List.reverseRecOn with
  | nil => exact fun _ _ => initial
  | append_singleton done call ih =>
    intro rest split
    have earlier : calls = done ++ call :: rest := by simpa using split
    rw [run_concat]
    exact preserved _ call (ih (call :: rest) earlier) (every done call rest earlier)

theorem run_invariant (kept : State -> Prop) (initial : kept machine.start)
    (preserved : ∀ state call, kept state -> kept (machine.step state call)) (calls : List Call) :
    kept (machine.run calls) := by
  induction calls using List.reverseRecOn with
  | nil => exact initial
  | append_singleton done call ih =>
    rw [run_concat]
    exact preserved _ call ih

theorem run_stable (kept : State -> Prop)
    (preserved : ∀ state call, kept state -> kept (machine.step state call)) {done : List Call}
    (now : kept (machine.run done)) (rest : List Call) : kept (machine.run (done ++ rest)) := by
  induction rest using List.reverseRecOn with
  | nil => simpa using now
  | append_singleton rest call ih =>
    rw [<- List.append_assoc, run_concat]
    exact preserved _ call ih

theorem run_view {Part : Type} {other : Machine Part Call} (view : State -> Part)
    (start : view machine.start = other.start)
    (step : ∀ state call, view (machine.step state call) = other.step (view state) call)
    (calls : List Call) : view (machine.run calls) = other.run calls := by
  induction calls using List.reverseRecOn with
  | nil => exact start
  | append_singleton done call ih => rw [run_concat, run_concat, step, ih]

/-- The condition is exact when a step that breaks it spoils its next state. -/
theorem throughout_iff_everyStep (initial : invariant machine.start)
    (preserved : ∀ state call, invariant state -> assumed state call -> meets state call ->
      invariant (machine.step state call))
    (sound : ∀ state, invariant state -> good state)
    (exact : ∀ state call, invariant state -> assumed state call ->
      good (machine.step state call) -> meets state call)
    {calls : List Call} (promised : machine.EveryStep calls assumed) :
    machine.Throughout calls good ↔ machine.EveryStep calls meets := by
  constructor
  · intro throughout
    have met : ∀ done call rest, calls = done ++ call :: rest -> invariant (machine.run done) ->
        meets (machine.run done) call := by
      intro done call rest split before
      have after := throughout (done ++ [call]) rest (by simpa using split)
      rw [run_concat] at after
      exact exact _ call before (promised done call rest split) after
    have kept : machine.Throughout calls invariant := by
      intro done
      induction done using List.reverseRecOn with
      | nil => exact fun _ _ => initial
      | append_singleton done call ih =>
        intro rest split
        have earlier : calls = done ++ call :: rest := by simpa using split
        have before := ih (call :: rest) earlier
        rw [run_concat]
        exact preserved _ call before (promised done call rest earlier)
          (met done call rest earlier before)
    intro done call rest split
    exact met done call rest split (kept done (call :: rest) split)
  · intro every
    have both : machine.EveryStep calls fun state call => assumed state call ∧ meets state call :=
      fun done call rest split => ⟨promised done call rest split, every done call rest split⟩
    have kept := both.throughout initial
      fun state call before step => preserved state call before step.1 step.2
    exact fun done rest split => sound _ (kept done rest split)

end Machine

end AbilityRuntime.Library
