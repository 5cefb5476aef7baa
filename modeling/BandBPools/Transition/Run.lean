import Mathlib.Data.List.Basic

/-!
# Observed runs of partial steps

A partial step takes a state and an action and, where the action is enabled,
returns the next state together with the observations made on the way.  This
module supplies finite runs whose steps all meet a condition on the state
before the step and the action taken, the rules that lift a fact about one
step to a fact about a whole run, and an executable form for closed runs.
-/

namespace BandBPools.Transition

variable {State Action Event : Type*}

/-- A deterministic partial step that reports what was observed. -/
abbrev PartialStep (State Action Event : Type*) :=
  State → Action → Option (State × List Event)

/--
A finite run from `source`, recorded with its actions and observations, in
which every step meets `condition` in the state it is taken from.
-/
inductive RunUnder
    (step : PartialStep State Action Event)
    (condition : State → Action → Prop)
    (source : State) :
    List Action → List Event → State → Prop where
  | refl : RunUnder step condition source [] [] source
  | snoc {actions events middle action observed target}
      (run : RunUnder step condition source actions events middle)
      (meets : condition middle action)
      (next : step middle action = some (target, observed)) :
      RunUnder step condition source
        (actions ++ [action]) (events ++ observed) target

/-- A finite run with no condition on its steps. -/
abbrev Run (step : PartialStep State Action Event) (source : State) :=
  RunUnder step (fun _ _ => True) source

namespace RunUnder

variable {step : PartialStep State Action Event}
variable {condition : State → Action → Prop}
variable {source middle target : State}
variable {actions later : List Action} {events further : List Event}

theorem trans
    (first : RunUnder step condition source actions events middle)
    (second : RunUnder step condition middle later further target) :
    RunUnder step condition source
      (actions ++ later) (events ++ further) target := by
  induction second with
  | refl => simpa using first
  | snoc run meets next induction =>
      simpa only [← List.append_assoc] using
        RunUnder.snoc induction meets next

/-- The invariant rule: what holds at the source and is kept by every step
that meets the condition holds at the target, together with the actions taken
and the observations made on the way. -/
theorem historyInvariant
    {Inv : List Action → List Event → State → Prop}
    (preserved :
      ∀ past seen state action next observed,
        Inv past seen state → condition state action →
        step state action = some (next, observed) →
        Inv (past ++ [action]) (seen ++ observed) next)
    (initial : Inv [] [] source)
    (run : RunUnder step condition source actions events target) :
    Inv actions events target := by
  induction run with
  | refl => exact initial
  | snoc run meets next induction =>
      exact preserved _ _ _ _ _ _ induction meets next

end RunUnder

/-! ## Closed runs -/

/-- Take the listed actions in order, as long as each meets the condition,
collecting the observations. -/
def exec (step : PartialStep State Action Event)
    (condition : State → Action → Prop)
    [∀ state action, Decidable (condition state action)]
    (source : State) : List Action → Option (State × List Event)
  | [] => some (source, [])
  | action :: rest =>
      if condition source action then
        match step source action with
        | none => none
        | some (next, observed) =>
            match exec step condition next rest with
            | none => none
            | some (target, events) => some (target, observed ++ events)
      else
        none

/-- Executing a list of actions is a run. -/
theorem run_of_exec {step : PartialStep State Action Event}
    {condition : State → Action → Prop}
    [∀ state action, Decidable (condition state action)]
    {source target : State} {actions : List Action} {events : List Event}
    (executed :
      exec step condition source actions = some (target, events)) :
    RunUnder step condition source actions events target := by
  induction actions generalizing source events with
  | nil =>
      simp only [exec, Option.some.injEq, Prod.mk.injEq] at executed
      rcases executed with ⟨rfl, rfl⟩
      exact .refl
  | cons action rest induction =>
      rw [exec] at executed
      split at executed
      · next meets =>
          split at executed
          · contradiction
          · next next observed taken =>
              split at executed
              · contradiction
              · next reached seen executedRest =>
                  simp only [Option.some.injEq, Prod.mk.injEq] at executed
                  rcases executed with ⟨rfl, rfl⟩
                  have start : RunUnder step condition source
                      [] [] source := .refl
                  have first : RunUnder step condition source
                      [action] observed next := by
                    simpa using RunUnder.snoc start meets taken
                  exact first.trans (induction executedRest)
      · contradiction

/-- What is checked at the end of an executed list of actions holds at the end
of a run. -/
theorem run_of_any {step : PartialStep State Action Event}
    {condition : State → Action → Prop}
    [∀ state action, Decidable (condition state action)]
    {source : State} {actions : List Action}
    {check : State × List Event → Bool}
    (passes : (exec step condition source actions).any check = true) :
    ∃ events target,
      RunUnder step condition source actions events target ∧
        check (target, events) = true := by
  rcases (Option.any_eq_true _ _).mp passes with
    ⟨⟨target, events⟩, executed, holds⟩
  exact ⟨events, target, run_of_exec executed, holds⟩

end BandBPools.Transition
