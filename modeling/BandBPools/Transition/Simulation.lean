import BandBPools.Transition.Run

/-!
# Simulation of one partial step by another

A concrete machine simulates an abstract one when each of its steps is a step
of the abstract machine on what can be viewed of the state, or changes nothing
that can be viewed.  The abstract action, if there is one, is a function of
the concrete state and action, so that conditions on abstract runs can be
asked of concrete ones.
-/

namespace BandBPools.Transition

variable {State Action Event Abstract Move Label : Type*}

/-- What a concrete machine needs for its runs to be runs of an abstract
one. -/
structure Simulation (step : PartialStep State Action Event)
    (condition : State → Action → Prop)
    (abstract : PartialStep Abstract Move Label) where
  view : State → Abstract
  move? : State → Action → Option Move
  visible : Event → Option Label
  Inv : State → Prop
  preserved : ∀ state action next observed,
    Inv state → condition state action →
    step state action = some (next, observed) → Inv next
  stutters : ∀ state action next observed,
    Inv state → condition state action → move? state action = none →
    step state action = some (next, observed) →
    view next = view state ∧ observed.filterMap visible = []
  moves : ∀ state action next observed move,
    Inv state → condition state action → move? state action = some move →
    step state action = some (next, observed) →
    abstract (view state) move =
      some (view next, observed.filterMap visible)

namespace Simulation

variable {step : PartialStep State Action Event}
variable {condition : State → Action → Prop}
variable {abstract : PartialStep Abstract Move Label}

/-- The steps that meet the condition and whose abstract move, if there is
one, meets a condition of its own. -/
def Under (simulation : Simulation step condition abstract)
    (required : Abstract → Move → Prop) (state : State) (action : Action) :
    Prop :=
  condition state action ∧
    ∀ move, simulation.move? state action = some move →
      required (simulation.view state) move

instance (simulation : Simulation step condition abstract)
    (required : Abstract → Move → Prop)
    [∀ state action, Decidable (condition state action)]
    [∀ state move, Decidable (required state move)]
    (state : State) (action : Action) :
    Decidable (simulation.Under required state action) :=
  inferInstanceAs (Decidable (condition state action ∧
    ∀ move ∈ simulation.move? state action,
      required (simulation.view state) move))

/-- A concrete run is an abstract run on what can be viewed. -/
theorem run (simulation : Simulation step condition abstract)
    {required : Abstract → Move → Prop} {source target : State}
    {actions : List Action} {events : List Event}
    (start : simulation.Inv source)
    (ran : RunUnder step (simulation.Under required) source actions events
      target) :
    simulation.Inv target ∧ ∃ moves,
      RunUnder abstract required (simulation.view source) moves
        (events.filterMap simulation.visible) (simulation.view target) := by
  induction ran with
  | refl => exact ⟨start, [], .refl⟩
  | @snoc actions events middle action observed target ran meets next
      induction =>
      rcases induction with ⟨inv, moves, reached⟩
      refine ⟨simulation.preserved _ _ _ _ inv meets.1 next, ?_⟩
      rw [List.filterMap_append]
      cases moved : simulation.move? middle action with
      | none =>
          obtain ⟨same, hidden⟩ :=
            simulation.stutters _ _ _ _ inv meets.1 moved next
          rw [same, hidden, List.append_nil]
          exact ⟨moves, reached⟩
      | some move =>
          exact ⟨moves ++ [move], reached.snoc (meets.2 move moved)
            (simulation.moves _ _ _ _ _ inv meets.1 moved next)⟩

end Simulation

end BandBPools.Transition
